import JsonShell.Proofs.Line.Pipe
import JsonShell.Proofs.Loop.Shape
import JsonShell.Proofs.Session.BodyCall

/-!
# Pipes after a call

A line that calls a module is run in one way, and a line with a pipe in another: it is cut into
segments, its head is read, and the record of the head goes through the stages.  If nothing but
spaces and pipes follows the call, both ways come to the same.  The first segment is the call with
spaces after it, the others are blank and no stages, and the line is no loop because it ends with a
pipe (`ofLine_withPipes`, `runPipeline_eq_runCall`).
-/

set_option autoImplicit false

namespace JsonShell

/-! ## Cutting off pipes -/

namespace Pipe

/-- Some spaces and a pipe. -/
def gap (spaces : Nat) : List Char :=
  List.replicate spaces ' ' ++ ['|']

variable {cs rest : List Char} {gaps : List Nat}

theorem escape_of_not_mem (h : '|' ∉ cs) : escape cs = cs := by
  induction cs with
  | nil => rfl
  | cons c rest ih =>
    have hc : c ≠ '|' := (List.ne_of_not_mem_cons h).symm
    rw [escape, List.flatMap_cons, if_neg hc, ← escape, ih (List.not_mem_of_not_mem_cons h)]
    rfl

/-- The first pipe of a line ends the first segment, if there is no backslash before it. -/
theorem segmentChars_append_pipe (h : '|' ∉ cs) (hlast : cs.getLast? ≠ some '\\') :
    segmentChars (cs ++ '|' :: rest) = cs :: segmentChars rest := by
  have hcut : segmentChars ('|' :: rest) = [] :: segmentChars rest := by
    rw [segmentChars, if_pos rfl]
    exact fun _ heq => absurd heq (by decide)
  have hescape : segmentChars (escape cs ++ '|' :: rest) = _ :=
    segmentChars_escape_append cs fun _ => hlast
  rw [escape_of_not_mem h, hcut, Text.foldr_consFirst, List.append_nil] at hescape
  exact hescape

theorem segmentChars_append_gap (h : '|' ∉ cs) {spaces : Nat} (hspaces : 0 < spaces) :
    segmentChars (cs ++ (gap spaces ++ rest)) =
      (cs ++ List.replicate spaces ' ') :: segmentChars rest := by
  obtain ⟨n, rfl⟩ := Nat.exists_eq_add_of_lt hspaces
  rw [Nat.zero_add, gap, List.append_assoc, ← List.append_assoc cs]
  refine segmentChars_append_pipe ?_ ?_
  · rw [List.mem_append, not_or]
    exact ⟨h, fun hmem => absurd (List.eq_of_mem_replicate hmem) (by decide)⟩
  · rw [List.replicate_succ', ← List.append_assoc, List.getLast?_concat]
    decide

/-- Between pipes there is nothing but spaces. -/
theorem mem_of_mem_segmentChars_gaps (hgaps : ∀ n ∈ gaps, 0 < n) :
    ∀ segment ∈ segmentChars (gaps.flatMap gap), ∀ c ∈ segment, c = ' ' := by
  induction gaps with
  | nil => exact List.forall_mem_singleton.2 (List.forall_mem_nil _)
  | cons n rest ih =>
    obtain ⟨hn, hrest⟩ := List.forall_mem_cons.1 hgaps
    rw [List.flatMap_cons, ← List.nil_append (gap n ++ _),
      segmentChars_append_gap List.not_mem_nil hn]
    exact List.forall_mem_cons.2 ⟨fun c hc => List.eq_of_mem_replicate hc, ih hrest⟩

theorem getLast?_flatMap_gap (hne : gaps ≠ []) : (gaps.flatMap gap).getLast? = some '|' := by
  obtain ⟨before, last, rfl⟩ := (List.eq_nil_or_concat gaps).resolve_left hne
  rw [List.concat_eq_append, List.flatMap_append, List.flatMap_singleton, gap,
    ← List.append_assoc, List.getLast?_concat]

end Pipe

/-- A line with pipes after it, each of them after so many spaces. -/
def withPipes (line : String) (gaps : List Nat) : String :=
  line ++ String.ofList (gaps.flatMap Pipe.gap)

/-- A blank segment is no stage. -/
theorem Stage.parse?_of_blank {segment : List Char} (h : ∀ c ∈ segment, c = ' ') :
    parse? (String.ofList segment) = none := by
  have htrim : Text.trim (String.ofList segment) = "" := by
    rw [Text.trim_eq_empty, Text.isAllBlank, String.toList_ofList, List.all_eq_true]
    intro c hc
    rw [h c hc]
    decide
  rw [parse?, htrim]
  rfl

/-! ## The line with pipes -/

variable {line name : String} {args : List String} {gaps : List Nat} {files : FileTree}

/-- Of a line with pipes after it, only the blanks in front are trimmed. -/
theorem exists_trim_withPipes (hline : Text.trim line ≠ "") (hne : gaps ≠ []) :
    ∃ before after, (∀ c ∈ after, isBlank c = true) ∧
      line.toList = before ++ (Text.trimChars line.toList ++ after) ∧
      (Text.trim (withPipes line gaps)).toList =
        Text.trimChars line.toList ++ after ++ gaps.flatMap Pipe.gap := by
  obtain ⟨before, after, hbefore, hafter, hsplit⟩ := Text.exists_eq_trimChars line.toList
  have hlast := Pipe.getLast?_flatMap_gap hne
  obtain ⟨first, more, hfirst⟩ : ∃ first more, Text.trimChars line.toList = first :: more :=
    List.exists_cons_of_ne_nil fun hnil => hline (by rw [Text.trim, hnil])
  have hwhole : (withPipes line gaps).toList =
      before ++ (Text.trimChars line.toList ++ after ++ gaps.flatMap Pipe.gap) :=
    calc
      _ = line.toList ++ gaps.flatMap Pipe.gap := by
        rw [withPipes, String.toList_append, String.toList_ofList]
      _ = before ++ Text.trimChars line.toList ++ after ++ gaps.flatMap Pipe.gap :=
        congrArg (· ++ gaps.flatMap Pipe.gap) hsplit
      _ = _ := by simp only [List.append_assoc]
  refine ⟨before, after, hafter, by rw [← List.append_assoc]; exact hsplit, ?_⟩
  rw [Text.trim, String.toList_ofList, hwhole, Text.trimChars_append_left hbefore]
  -- The call is in front and a pipe at the end, so that nothing else is stripped.
  refine Text.stripChars_eq_self (fun c hc => ?_) fun c hc => ?_
  · rw [hfirst] at hc
    have hhead : (Text.stripChars isBlank line.toList).head? = some c := by
      rw [← Text.trimChars, hfirst]
      exact hc
    exact Text.not_of_head?_stripChars hhead
  · rw [List.getLast?_append, hlast, Option.some_or] at hc
    cases hc
    decide

/-- The first segment of a line with pipes is the line but for blanks, and the others are no
stages. -/
theorem segments_trim_withPipes (hpipe : '|' ∉ line.toList) (hline : Text.trim line ≠ "")
    (hne : gaps ≠ []) (hgaps : ∀ n ∈ gaps, 0 < n) :
    ∃ head stages, segments (Text.trim (withPipes line gaps)) = head :: stages ∧ stages ≠ [] ∧
      Text.trim head = Text.trim line ∧ ∀ stage ∈ stages, Stage.parse? stage = none := by
  obtain ⟨before, after, hafter, hsplit, htrim⟩ := exists_trim_withPipes hline hne
  obtain ⟨n, rest, rfl⟩ := List.exists_cons_of_ne_nil hne
  obtain ⟨hn, hrest⟩ := List.forall_mem_cons.1 hgaps
  have hfree : '|' ∉ Text.trimChars line.toList ++ after := by
    rw [hsplit, List.mem_append, not_or] at hpipe
    exact hpipe.2
  rw [segments, htrim, List.flatMap_cons, Pipe.segmentChars_append_gap hfree hn, List.map_cons]
  refine ⟨_, _, rfl, mt List.map_eq_nil_iff.1 (Pipe.segmentChars_ne_nil _), ?_,
    List.forall_mem_map.2 fun stage hstage =>
      Stage.parse?_of_blank (Pipe.mem_of_mem_segmentChars_gaps hrest stage hstage)⟩
  have hblank : ∀ c ∈ after ++ List.replicate n ' ', isBlank c = true := by
    intro c hc
    rcases List.mem_append.1 hc with hc | hc
    · exact hafter c hc
    · rw [List.eq_of_mem_replicate hc]
      decide
  rw [Text.trim, Text.trim, String.toList_ofList, List.append_assoc,
    Text.trimChars_append_right hblank, Text.trimChars_trimChars]

/-- **A call with pipes after it is a pipeline**, unless the whole line is a script or an
assignment. -/
theorem Command.ofLine_withPipes (hpipe : '|' ∉ line.toList) (hline : Text.trim line ≠ "")
    (hne : gaps ≠ []) (hgaps : ∀ n ∈ gaps, 0 < n)
    (hscript : ∀ path, ofLine files (withPipes line gaps) ≠ .script path)
    (hassignment : ∀ a, ofLine files (withPipes line gaps) ≠ .assignment a) :
    ofLine files (withPipes line gaps) = .pipeline (Text.trim (withPipes line gaps)) := by
  obtain ⟨head, stages, hsegments, hstages, -⟩ := segments_trim_withPipes hpipe hline hne hgaps
  have hlast : (Text.trim (withPipes line gaps)).toList.getLast? = some '|' := by
    obtain ⟨-, after, -, -, htrim⟩ := exists_trim_withPipes hline hne
    rw [htrim, List.getLast?_append, Pipe.getLast?_flatMap_gap hne, Option.some_or]
  have hempty : Text.trim (withPipes line gaps) ≠ "" := by
    intro h
    rw [h] at hlast
    cases hlast
  have hloop : Loop.parse? (Text.trim (withPipes line gaps)) = none :=
    Loop.parse?_eq_none_of_getLast? hlast (by decide) (by decide)
  have hhas : hasPipe (Text.trim (withPipes line gaps)) = true := by
    refine (Pipe.occursAfter_iff (by decide)).2 ?_
    have hlength := congrArg List.length hsegments
    rw [segments, List.length_map, List.length_cons] at hlength
    rw [hlength]
    exact Nat.succ_lt_succ (List.length_pos_iff.2 hstages)
  rw [ofLine] at hscript hassignment ⊢
  rw [if_neg hempty] at hscript hassignment ⊢
  split at hscript
  · exact absurd rfl (hscript _)
  · rename_i hfile
    rw [if_neg hfile] at hassignment ⊢
    split at hassignment
    · exact absurd rfl (hassignment _)
    · rw [hloop, if_pos hhas]

/-! ## Runs -/

variable {ρ : Type} {settings : Settings ρ}

namespace Action

theorem runStages_of_blank (settings : Settings ρ) (line : String) {stages : List String}
    (h : ∀ stage ∈ stages, Stage.parse? stage = none) (r : Record) :
    runStages settings line stages r = showRecord settings r := by
  induction stages with
  | nil => rfl
  | cons stage rest ih =>
    obtain ⟨hstage, hrest⟩ := List.forall_mem_cons.1 h
    rw [runStages, hstage]
    exact ih hrest

/-- A pipeline without stages is a call. -/
theorem runPipeline_eq_runCall {head : String} {stages : List String}
    (hsegments : segments line = head :: stages) (hhead : Head.parse head = .command name args)
    (hstages : ∀ stage ∈ stages, Stage.parse? stage = none) :
    runPipeline settings line = runCall settings name args := by
  have hshow : ∀ r, runStages settings line stages r = showRecord settings r :=
    runStages_of_blank settings line hstages
  rw [runPipeline, hsegments]
  dsimp only
  rw [runHead, hhead, runCall]
  simp only [hshow]
  exact bind_assoc ..

end Action

/-- **Pipes after a call make no difference**: the run is the same, with the same call, output,
reports and result, whatever comes of the call. -/
theorem execute_withPipes {s : Session ρ} {name' : String} {args' : List String}
    (hpipe : '|' ∉ line.toList) (hcall : Command.ofLine s.files line = .call name args)
    (hhead : Head.parse line = .command name' args') (hne : gaps ≠ [])
    (hgaps : ∀ n ∈ gaps, 0 < n)
    (hscript : ∀ path, Command.ofLine s.files (withPipes line gaps) ≠ .script path)
    (hassignment : ∀ a, Command.ofLine s.files (withPipes line gaps) ≠ .assignment a)
    (depth : Nat) :
    ∃ run, Action.execute settings (depth + 1) line s = some run ∧
      Action.execute settings (depth + 1) (withPipes line gaps) s = some run := by
  obtain ⟨hwords, -⟩ := Command.of_ofLine_eq_call hcall
  have hline : Text.trim line ≠ "" := by
    intro h
    rw [h] at hwords
    cases hwords
  have hwords' : tokenize (Text.trim line) = name' :: args' :=
    Head.words?_parse (by rw [hhead]; rfl)
  obtain ⟨rfl, rfl⟩ := List.cons.inj (hwords.symm.trans hwords')
  obtain ⟨head, stages, hsegments, -, htrim, hstages⟩ :=
    segments_trim_withPipes hpipe hline hne hgaps
  have hhead' : Head.parse head = .command name args := by
    rw [← hhead, Head.parse, Head.parse, htrim]
  obtain ⟨run, hrun, -⟩ := Action.exists_runCall settings name args s
  refine ⟨run, ?_, ?_⟩
  · rw [Action.execute_eq, hcall]
    exact hrun
  · rw [Action.execute_eq, Command.ofLine_withPipes hpipe hline hne hgaps hscript hassignment,
      Action.runCommand, Action.runPipeline_eq_runCall hsegments hhead' hstages]
    exact hrun

/-- The quote is never closed, so that the pipe would be in it if words were read before segments;
and the module fails. -/
theorem execute_withPipes_boom :
    ∃ run, '|' ∉ " boom a\t\\ \"b  c".toList ∧
      Command.ofLine Sample.session.files " boom a\t\\ \"b  c" = .call "boom" ["a\t\\", "b  c"] ∧
      Head.parse " boom a\t\\ \"b  c" = .command "boom" ["a\t\\", "b  c"] ∧
      withPipes " boom a\t\\ \"b  c" [1, 3] = " boom a\t\\ \"b  c |   |" ∧
      Action.execute Sample.settings 1 " boom a\t\\ \"b  c" Sample.session = some run ∧
      Action.execute Sample.settings 1 " boom a\t\\ \"b  c |   |" Sample.session = some run ∧
      run.trace.calls = [("boom", ["a\t\\", "b  c"])] := by
  have hpipe : '|' ∉ " boom a\t\\ \"b  c".toList := by decide
  have hcall : Command.ofLine Sample.session.files " boom a\t\\ \"b  c" =
      .call "boom" ["a\t\\", "b  c"] := by decide +kernel
  have hhead : Head.parse " boom a\t\\ \"b  c" = .command "boom" ["a\t\\", "b  c"] := by
    decide +kernel
  have htext : withPipes " boom a\t\\ \"b  c" [1, 3] = " boom a\t\\ \"b  c |   |" := by
    decide +kernel
  have hpipeline : Command.ofLine Sample.session.files (withPipes " boom a\t\\ \"b  c" [1, 3]) =
      .pipeline "boom a\t\\ \"b  c |   |" := by decide +kernel
  have hscript : ∀ path, Command.ofLine Sample.session.files
      (withPipes " boom a\t\\ \"b  c" [1, 3]) ≠ .script path := by
    intro path h
    rw [hpipeline] at h
    cases h
  have hassignment : ∀ a, Command.ofLine Sample.session.files
      (withPipes " boom a\t\\ \"b  c" [1, 3]) ≠ .assignment a := by
    intro a h
    rw [hpipeline] at h
    cases h
  obtain ⟨run, hrun, hrun'⟩ : ∃ run,
      Action.execute Sample.settings 1 " boom a\t\\ \"b  c" Sample.session = some run ∧
        Action.execute Sample.settings 1 (withPipes " boom a\t\\ \"b  c" [1, 3]) Sample.session =
          some run :=
    execute_withPipes hpipe hcall hhead (by decide) (by decide) hscript hassignment 0
  obtain ⟨run', hrun'', hcalls⟩ := Action.exists_execute_of_ofLine Sample.settings hcall 0
  obtain rfl := Option.some.inj (hrun.symm.trans hrun'')
  refine ⟨run, hpipe, hcall, hhead, htext, hrun, by rw [← htext]; exact hrun', hcalls.trans ?_⟩
  decide +kernel

end JsonShell
