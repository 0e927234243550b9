import JsonShell.Proofs.Loop.Balance
import JsonShell.Proofs.Session.Branch
import JsonShell.Proofs.Session.Dispatch
import JsonShell.Proofs.Variable.Word

/-!
# Calls in bodies of loops

A loop expands the text of a command in its body, and the words of the result are expanded once more
when it is run.  So the call that a loop makes is the one that the command itself would make, with
its name and its arguments expanded again (`execute_loop_expandsAgain`).  As long as no value has a
dollar sign, that is the same call.  But a value that looks like a reference is taken for one
(`execute_loop_ne_execute`).
-/

set_option autoImplicit false

namespace JsonShell

/-! ## A command of a body -/

/-- Neither a brace nor a semicolon by itself. -/
def Piece.IsPlain (p : Piece) : Prop :=
  p ≠ .char '{' ∧ p ≠ .char '}' ∧ p ≠ .char ';'

instance (p : Piece) : Decidable p.IsPlain :=
  inferInstanceAs (Decidable (_ ∧ _))

namespace Body

variable {many : Bool} {depth : Nat} {cs : List Char}

theorem steps_quoted (depth : Nat) (h : ∀ c ∈ cs, c ≠ '"') :
    Steps many depth true cs depth true := by
  induction cs with
  | nil => exact .nil depth true
  | cons c rest ih =>
    exact .cons (.quoted depth (h c List.mem_cons_self))
      (ih fun d hd => h d (List.mem_cons_of_mem c hd))

/-- A reference leaves braces and quotes as they are. -/
theorem steps_reference {name : List Char} (hname : IsNameChars name) (braced quoted : Bool) :
    Steps false 0 quoted (Piece.reference name braced).source 0 quoted := by
  cases quoted with
  | true => exact steps_quoted 0 fun c hc => ((Piece.isBare_source hname braced).2 c hc).1
  | false =>
    have hplain : ∀ c ∈ name, c ≠ '"' ∧ c ≠ '{' ∧ c ≠ '}' ∧ c ≠ ';' := fun c hc =>
      Loop.plain_of_isNameChar (hname.isNameChar c hc)
    have hdollar : Steps false 0 false ['$'] 0 false := steps_of_all 0 (by decide)
    cases braced with
    | false => exact hdollar.append (steps_of_forall 0 hplain)
    | true =>
      exact hdollar.append ((steps_singleton (.opened 0)).append
        ((steps_of_forall 1 hplain).append (steps_singleton (.closed 0))))

/-- A text whose only braces are those of references opens and closes none. -/
theorem exists_steps {ps : List Piece} (hplain : ∀ p ∈ ps, p.IsPlain)
    (hname : ∀ name braced, .reference name braced ∈ ps → IsNameChars name) (quoted : Bool) :
    ∃ quotedLast, Steps false 0 quoted (ps.flatMap Piece.source) 0 quotedLast := by
  induction ps generalizing quoted with
  | nil => exact ⟨quoted, .nil 0 quoted⟩
  | cons p rest ih =>
    have hfirst : ∃ quotedNext, Steps false 0 quoted p.source 0 quotedNext := by
      cases p with
      | reference name braced =>
        exact ⟨quoted, steps_reference (hname name braced List.mem_cons_self) braced quoted⟩
      | char c =>
        obtain ⟨hopen, hclose, hseparator⟩ := hplain _ List.mem_cons_self
        by_cases hquote : c = '"'
        · subst hquote
          exact ⟨!quoted, steps_singleton (.quote 0 quoted)⟩
        · cases quoted with
          | true => exact ⟨true, steps_singleton (.quoted 0 hquote)⟩
          | false =>
            exact ⟨false, steps_singleton (.other 0 hquote (mt (congrArg _) hopen)
              (mt (congrArg _) hclose) (mt (congrArg _) hseparator))⟩
    obtain ⟨quotedNext, hsteps⟩ := hfirst
    obtain ⟨quotedLast, hrest⟩ := ih (fun q hq => hplain q (List.mem_cons_of_mem p hq))
      (fun name braced h => hname name braced (List.mem_cons_of_mem p h)) quotedNext
    exact ⟨quotedLast, hsteps.append hrest⟩

/-- **A command of a body is told by its pieces**: its quotes are even in number, and neither braces
nor semicolons are among its characters. -/
theorem isCommand_of_pieces (hne : cs ≠ []) (htrim : Text.trimChars cs = cs)
    (hquotes : cs.count '"' % 2 = 0)
    (hplain : ∀ p ∈ Reference.pieces cs, p.IsPlain) : IsCommand cs := by
  obtain ⟨quotedLast, hsteps⟩ := exists_steps hplain
    (fun _ _ h => Reference.isNameChars_of_mem_piecesFrom h) false
  rw [Reference.flatMap_source_pieces] at hsteps
  obtain ⟨hparity, -⟩ := steps_iff.1 hsteps
  rw [Bool.toNat_false, Nat.zero_add, hquotes] at hparity
  cases quotedLast with
  | true => cases hparity
  | false => exact ⟨hne, htrim, hsteps⟩

end Body

/-! ## Calls in bodies -/

/-- A call that can stand in the body of a loop.  It is a single command there, and a call of a
module both as it is written and with the values of its variables, which are parts of words. -/
structure IsBodyCall (files : FileTree) (store : Store) (command : String) : Prop where
  trimmed : Text.trim command = command
  even_quotes : command.toList.count '"' % 2 = 0
  /-- All braces are those of references. -/
  plain : ∀ p ∈ Reference.pieces command.toList, p.IsPlain
  value : ∀ name ∈ Reference.names command.toList, IsWordValue (store.valueOf name)
  call : ∃ name args, Command.ofLine files command = .call name args
  expanded : ∃ name args, Command.ofLine files (store.expand command) = .call name args

namespace IsBodyCall

variable {files : FileTree} {store : Store} {command : String}

theorem isCommand (h : IsBodyCall files store command) : Body.IsCommand command.toList := by
  obtain ⟨name, args, hcall⟩ := h.call
  have hwords := (Command.of_ofLine_eq_call hcall).1
  rw [h.trimmed] at hwords
  refine Body.isCommand_of_pieces ?_ (Text.trimChars_toList h.trimmed) h.even_quotes h.plain
  intro hnil
  rw [tokenize, hnil] at hwords
  cases hwords

/-- It is no loop, and it calls with its words; expanded, it calls with the words of its
expansion. -/
theorem exists_ofLine (h : IsBodyCall files store command) :
    ∃ name args name' args',
      tokenize command = name :: args ∧ Command.ofLine files command = .call name args ∧
      Loop.parse? command = none ∧ tokenize (store.expand command) = name' :: args' ∧
      Command.ofLine files (store.expand command) = .call name' args' := by
  obtain ⟨name, args, hcall⟩ := h.call
  obtain ⟨name', args', hcall'⟩ := h.expanded
  obtain ⟨hwords, hloop⟩ := Command.of_ofLine_eq_call hcall
  have hwords' := (Command.of_ofLine_eq_call hcall').1
  rw [h.trimmed] at hwords hloop
  rw [trim_expand h.trimmed h.value] at hwords'
  exact ⟨name, args, name', args', hwords, hcall, hloop, hwords', hcall'⟩

end IsBodyCall

/-! ## The loop -/

variable {ρ : Type} {settings : Settings ρ}

namespace Action

/-- A loop over one value runs its command once. -/
theorem runLoop_once (run : String → Action ρ Unit) (var command : String) (s : Session ρ) :
    runLoop run ⟨.counted, "1", var, [command]⟩ s =
      (run (expandBody (s.store.set var "0") command) (stored var "0" s)).map fun inner =>
        ⟨removed var inner.session, .looped var :: inner.trace, inner.result⟩ := by
  have hvalues : Loop.values ⟨.counted, s.store.expand "1", var, [command]⟩ = .ok ["0"] := by
    rw [s.store.expand_of_not_mem (by decide)]
    show rangeValues "1" = .ok ["0"]
    rfl
  have hset : (setVariable var "0" : Action ρ Unit) s = some ⟨stored var "0" s, [], .ok ()⟩ := rfl
  have honce : iterate run var [command] ["0"] s =
      run (expandBody (s.store.set var "0") command) (stored var "0" s) := by
    rw [iterate, bind_of_ok hset, map_after_nil]
    show bind (runBody run [command]) (fun _ => Action.pure ()) (stored var "0" s) = _
    rw [bind_pure, runBody_singleton]
    rfl
  rw [runLoop_eq, hvalues]
  dsimp only
  rw [honce]

/-- The value of another variable plays no part. -/
theorem expandBody_set {store : Store} {var command : String}
    (hloop : Loop.parse? command = none) (hfree : var.toList ∉ Reference.names command.toList)
    (value : String) : expandBody (store.set var value) command = store.expand command := by
  rw [expandBody, hloop, if_neg (by decide), Store.expand, Store.expandChars, Store.expand,
    Store.expandChars]
  refine congrArg String.ofList (Reference.expandFrom_congr fun name hname => ?_)
  have hne : String.ofList name ≠ var := by
    rintro rfl
    rw [String.toList_ofList] at hfree
    exact hfree hname
  rw [Store.valueOf, Store.get?_set, if_neg hne]
  rfl

/-- A line that is a call makes that call. -/
theorem exists_execute_of_ofLine (settings : Settings ρ) {line name : String}
    {args : List String} {s : Session ρ} (h : Command.ofLine s.files line = .call name args)
    (depth : Nat) :
    ∃ run, execute settings (depth + 1) line s = some run ∧
      run.trace.calls = [(s.store.expand name, args.map s.store.expand)] := by
  rw [execute_eq, h]
  exact exists_runCall settings name args s

end Action

variable {s : Session ρ} {var command : String}

/-- The loop makes the call of the words of the expansion, each of them expanded once more. -/
theorem execute_loop_call (settings : Settings ρ)
    (hcommand : IsBodyCall s.files s.store command) (hvar : IsNameChars var.toList)
    (hfree : var.toList ∉ Reference.names command.toList)
    (hfile : s.files.isFile ⟨Loop.text ⟨.counted, "1", var, [command]⟩⟩ = false) (depth : Nat) :
    ∃ run name args,
      Action.execute settings (depth + 2) (Loop.text ⟨.counted, "1", var, [command]⟩) s =
        some run ∧
      tokenize (s.store.expand command) = name :: args ∧
      run.trace.calls =
        [((s.store.set var "0").expand name, args.map (s.store.set var "0").expand)] := by
  obtain ⟨-, -, name, args, -, -, hloop, hwords, hexpanded⟩ := hcommand.exists_ofLine
  have hline : Command.ofLine s.files (Loop.text ⟨.counted, "1", var, [command]⟩) =
      .loop ⟨.counted, "1", var, [command]⟩ := by
    refine Command.ofLine_text_counted (by decide) (List.forall_mem_singleton.2 (by decide)) ?_
      hvar ?_ hfile
    · rintro c ⟨⟩
      decide
    · exact List.forall_mem_singleton.2 hcommand.isCommand
  have hinside : Command.ofLine (Action.stored var "0" s).files (s.store.expand command) =
      .call name args := hexpanded
  obtain ⟨inner, hinner, hcalls⟩ := Action.exists_execute_of_ofLine settings hinside depth
  refine ⟨⟨Action.removed var inner.session, .looped var :: inner.trace, inner.result⟩, name, args,
    ?_, hwords, hcalls⟩
  rw [Action.execute_eq, hline, Action.runCommand, Action.runLoop_once,
    Action.expandBody_set hloop hfree, hinner]
  rfl

/-- **A loop expands the words of a call again.**  It makes the call of the command itself, but with
the name and the arguments expanded once more; if no value has a dollar sign, this changes
nothing. -/
theorem execute_loop_expandsAgain (hcommand : IsBodyCall s.files s.store command)
    (hwhole : Reference.Unbroken command.toList) (hvar : IsNameChars var.toList)
    (hfree : var.toList ∉ Reference.names command.toList)
    (hfile : s.files.isFile ⟨Loop.text ⟨.counted, "1", var, [command]⟩⟩ = false) (depth : Nat) :
    ∃ direct looped name args,
      Action.execute settings (depth + 1) command s = some direct ∧
      Action.execute settings (depth + 2) (Loop.text ⟨.counted, "1", var, [command]⟩) s =
        some looped ∧
      (tokenize command).map s.store.expand = name :: args ∧
      direct.trace.calls = [(name, args)] ∧
      looped.trace.calls =
        [((s.store.set var "0").expand name, args.map (s.store.set var "0").expand)] ∧
      ((∀ name ∈ Reference.names command.toList, '$' ∉ s.store.valueOf name) →
        looped.trace.calls = direct.trace.calls) := by
  obtain ⟨name, args, -, -, hwords, hcall, -⟩ := hcommand.exists_ofLine
  obtain ⟨direct, hdirect, hcalls⟩ := Action.exists_execute_of_ofLine settings hcall depth
  obtain ⟨looped, name', args', hlooped, hwords', hagain⟩ :=
    execute_loop_call settings hcommand hvar hfree hfile depth
  have htokens := tokenize_expand hwhole hcommand.value
  rw [hwords', hwords, List.map_cons] at htokens
  obtain ⟨rfl, rfl⟩ := List.cons.inj htokens
  refine ⟨direct, looped, _, _, hdirect, hlooped, by rw [hwords, List.map_cons], hcalls, hagain,
    fun hvalues => ?_⟩
  -- No word has a dollar sign, so the second expansion changes nothing.
  have hsame : ∀ w ∈ tokenize (s.store.expand command), (s.store.set var "0").expand w = w :=
    fun w hw => Store.expand_of_not_mem _ fun hmem =>
      not_mem_expand hwhole hvalues (mem_of_mem_tokenize hw hmem)
  rw [hwords'] at hsame
  obtain ⟨hname, hargs⟩ := List.forall_mem_cons.1 hsame
  rw [hagain, hcalls, hname, List.map_congr_left hargs, List.map_id']

/-- A session in which the value of a variable looks like a reference to another one. -/
def Sample.lookalike (name : String) : Session Prepared :=
  { Sample.session with store := (Store.empty.set "x" ("$" ++ name)).set "y" "v" }

/-- The other variable is that of the loop. -/
theorem execute_loop_expandsAgain_own :
    IsBodyCall (Sample.lookalike "z").files (Sample.lookalike "z").store
        "args a$x \"b $\x7bx\x7d\"" ∧
      Reference.Unbroken "args a$x \"b $\x7bx\x7d\"".toList ∧ IsNameChars "z".toList ∧
      "z".toList ∉ Reference.names "args a$x \"b $\x7bx\x7d\"".toList ∧
      (Sample.lookalike "z").files.isFile
        ⟨Loop.text ⟨.counted, "1", "z", ["args a$x \"b $\x7bx\x7d\""]⟩⟩ = false ∧
      ∃ direct looped,
        Action.execute Sample.settings 1 "args a$x \"b $\x7bx\x7d\"" (Sample.lookalike "z") =
          some direct ∧
        Action.execute Sample.settings 2
            (Loop.text ⟨.counted, "1", "z", ["args a$x \"b $\x7bx\x7d\""]⟩)
            (Sample.lookalike "z") = some looped ∧
        direct.trace.calls = [("args", ["a$z", "b $z"])] ∧
        looped.trace.calls = [("args", ["a0", "b 0"])] := by
  have hcommand : IsBodyCall (Sample.lookalike "z").files (Sample.lookalike "z").store
      "args a$x \"b $\x7bx\x7d\"" :=
    ⟨by decide +kernel, by decide +kernel, by decide +kernel, by decide +kernel,
      ⟨"args", ["a$x", "b $\x7bx\x7d"], by decide +kernel⟩,
      ⟨"args", ["a$z", "b $z"], by decide +kernel⟩⟩
  have hwhole : Reference.Unbroken "args a$x \"b $\x7bx\x7d\"".toList := by decide +kernel
  have hfree : "z".toList ∉ Reference.names "args a$x \"b $\x7bx\x7d\"".toList := by
    decide +kernel
  have hfile : (Sample.lookalike "z").files.isFile
      ⟨Loop.text ⟨.counted, "1", "z", ["args a$x \"b $\x7bx\x7d\""]⟩⟩ = false := by
    decide +kernel
  have hname : IsNameChars "z".toList := by decide
  have h := @execute_loop_expandsAgain _ Sample.settings (Sample.lookalike "z") "z"
    "args a$x \"b $\x7bx\x7d\"" hcommand hwhole hname hfree hfile 0
  obtain ⟨direct, looped, name, args, hdirect, hlooped, hwords, hcalls, hagain, -⟩ := h
  have hexpanded : (tokenize "args a$x \"b $\x7bx\x7d\"").map
      (Sample.lookalike "z").store.expand = ["args", "a$z", "b $z"] := by decide +kernel
  obtain ⟨rfl, rfl⟩ := List.cons.inj (hexpanded.symm.trans hwords)
  refine ⟨hcommand, hwhole, hname, hfree, hfile, direct, looped, hdirect, hlooped, hcalls,
    hagain.trans ?_⟩
  decide +kernel

/-- **A value that looks like a reference is taken for one** by a loop, and by nothing else. -/
theorem execute_loop_ne_execute :
    IsBodyCall (Sample.lookalike "y").files (Sample.lookalike "y").store "args $x" ∧
      "z".toList ∉ Reference.names "args $x".toList ∧
      (Sample.lookalike "y").store.get? "x" = some "$y" ∧
      "args $x$y".toList.filter (['"', '|', ';', '=', '{', '}'].contains ·) = [] ∧
      (Action.execute Sample.settings 2 "args $x" (Sample.lookalike "y")).map (·.trace.calls) =
        some [("args", ["$y"])] ∧
      (Action.execute Sample.settings 2 "forloop 1 as $z do \x7b args $x \x7d"
          (Sample.lookalike "y")).map (·.trace.calls) =
        some [("args", ["v"])] := by
  refine ⟨⟨?_, ?_, ?_, ?_, ⟨"args", ["$x"], ?_⟩, ⟨"args", ["$y"], ?_⟩⟩, ?_, ?_, ?_, ?_, ?_⟩ <;>
    decide +kernel

end JsonShell
