import JsonShell.Module.Prepared
import JsonShell.Module.Script
import JsonShell.Proofs.Module.Listing
import JsonShell.Proofs.Session.Location

/-!
# The files of a session stay valid

What is proved of finding and listing modules is about valid trees (`FileTree.IsValid`).  A session
does not leave those.  It changes files to record a line in the history and a failure in the log,
and each of these makes directories and writes a file.  All else is up to the modules that it calls
(`Runner.KeepsValid`).

So the files are valid after all that a session is asked for (`serveAll_isValid`), and whatever that
was, the modules that are listed then can be found (`serveAll_resolves`).
-/

set_option autoImplicit false

namespace JsonShell

variable {ρ : Type} {settings : Settings ρ}

/-- Modules leave a valid tree valid. -/
def Runner.KeepsValid (r : Runner ρ) : Prop :=
  ∀ modules (files : FileTree) name args, files.IsValid →
    (r.invoke modules files name args).files.IsValid

theorem Prepared.keepsValid : runner.KeepsValid := by
  intro p t name args ht
  show (p.invoke t name args).files.IsValid
  rwa [invoke_files]

/-! ## What a session writes -/

variable {t : FileTree}

namespace History

theorem isValid_save (ht : t.IsValid) (h : History) : (h.save t).1.IsValid := by
  rw [save]
  split
  · exact ht
  · split
    · exact ht
    · rename_i made
      have hparent := ht.makeParent made
      split
      · exact hparent
      · rename_i written
        exact hparent.update written

theorem isValid_add (ht : t.IsValid) (h : History) (line : String) : (h.add t line).2.IsValid := by
  rw [add]
  dsimp only
  split
  · exact ht
  · exact isValid_save ht _

end History

namespace FileTree

theorem IsValid.log (ht : t.IsValid) (path : Path) (time : String) (entry : LogEntry) :
    (t.log path time entry).IsValid := by
  have hprepared : ((t.makeParent path).toOption.getD t).IsValid := by
    cases hmade : t.makeParent path with
    | error fault => exact ht
    | ok made => exact ht.makeParent hmade
  rw [FileTree.log]
  generalize (t.makeParent path).toOption.getD t = prepared at hprepared
  cases hwritten : prepared.append path (Utf8.encode (entry.text time)) with
  | error fault => exact hprepared
  | ok written => exact hprepared.update hwritten

end FileTree

/-! ## Runs -/

namespace Law

open JsonShell.Action

/-- The files are valid if they were. -/
def keepsValid : Law ρ where
  Holds s _ _ t := s.files.IsValid → t.files.IsValid
  nil _ h := h
  append h hrest hvalid := hrest (h hvalid)

theorem keepsValid_of_files_eq {s t : Session ρ} {trace : Trace} {failure : Option Failure}
    (h : t.files = s.files) : keepsValid.Holds s trace failure t := by
  intro hvalid
  rwa [h]

theorem keepsValid_logged (entry : LogEntry) (s : Session ρ) (trace : Trace) :
    keepsValid.Holds s trace none (logged settings entry s) := by
  intro hvalid
  rw [logged]
  split
  · exact hvalid
  · exact hvalid.log _ _ _

theorem keepsValid_call (hkeeps : settings.runner.KeepsValid) (name : String)
    (args : List String) : keepsValid.Governs (call settings name args) := by
  intro s run hrun hvalid
  have hcalled : (called settings name args s).files.IsValid :=
    hkeeps s.modules s.files name args hvalid
  rw [call_eq] at hrun
  split at hrun
  · cases hrun
    exact hcalled
  · rename_i failure _
    cases hrun
    cases failure with
    | executionFailed failed file reason => exact keepsValid_logged _ _ [] hcalled
    | _ => exact hcalled

theorem keepsValid_raise (cause : Failure) :
    keepsValid.Governs (raise cause : Action ρ Unit) :=
  governs_of_eq (fun _ => rfl) fun _ => keepsValid_of_files_eq rfl

theorem keepsValid_basics (hkeeps : settings.runner.KeepsValid) :
    keepsValid.Basics settings where
  offer _ := governs_of_eq (fun _ => rfl) fun _ => keepsValid_of_files_eq rfl
  call := keepsValid_call hkeeps
  refuse line name := governs_of_eq (refuseStage_eq line name) fun _ => keepsValid_of_files_eq rfl
  raise cause _ := keepsValid_raise cause

theorem keepsValid_runLoop (run : String → Action ρ Unit)
    (hrun : ∀ line, keepsValid.Governs (run line)) (l : Loop) :
    keepsValid.Governs (runLoop run l) := by
  refine governs_runLoop (fun cause _ => keepsValid_raise cause)
    (fun _ => keepsValid_of_files_eq rfl) (fun value => ?_) (fun h => h) hrun
  exact governs_of_eq (fun _ => rfl) fun _ => keepsValid_of_files_eq rfl

theorem keepsValid_performLine (run : String → Action ρ Unit)
    (hrun : ∀ line, keepsValid.Governs (run line)) (path : Path) (line : Nat) (command : String) :
    keepsValid.Governs (performLine settings run path line command) := by
  refine governs_performLine (fun h => h) (fun s hvalid => ?_) (fun inner reports _ => ?_) hrun
  · rw [atLine_files]
    exact History.isValid_add hvalid s.history command
  · rw [closeLine]
    split
    · exact keepsValid_of_files_eq rfl
    · exact keepsValid_logged _ inner.session _

theorem keepsValid_runScript (hkeeps : settings.runner.KeepsValid) (run : String → Action ρ Unit)
    (hrun : ∀ line, keepsValid.Governs (run line)) (path : Path) :
    keepsValid.Governs (runScript settings run path) :=
  (keepsValid_basics hkeeps).runScript (fun _ _ => keepsValid_of_files_eq rfl) (fun h => h)
    (keepsValid_performLine run hrun path)

theorem keepsValid_execute (hkeeps : settings.runner.KeepsValid) (depth : Nat) (line : String) :
    keepsValid.Governs (execute settings depth line) :=
  governs_execute (keepsValid_basics hkeeps) (fun _ _ => keepsValid_of_files_eq rfl)
    keepsValid_runLoop (keepsValid_runScript hkeeps) depth line

end Law

variable {depth : Nat} {requests : List Request} {s : Session ρ} {run : Run ρ Unit}

/-- **Files stay valid** over all that a session is asked for. -/
theorem serveAll_isValid (hkeeps : settings.runner.KeepsValid) (hfiles : s.files.IsValid)
    (h : Action.serveAll settings depth requests s = some run) : run.session.files.IsValid :=
  Law.governs_serveAll (fun h => h) (Law.keepsValid_execute hkeeps depth)
    (Law.keepsValid_runScript hkeeps _ (Law.keepsValid_execute hkeeps depth))
    (Law.keepsValid_call hkeeps) requests s run h hfiles

/-- In particular they are valid if there were no files at first. -/
theorem serveAll_isValid_of_empty (hkeeps : settings.runner.KeepsValid) {modules : ρ}
    {current : Place} {history : History} (hcurrent : ∀ piece ∈ current, '/' ∉ piece)
    (h : Action.serveAll settings depth requests
      (Session.new modules (FileTree.empty current) history) = some run) :
    run.session.files.IsValid :=
  serveAll_isValid hkeeps (FileTree.isValid_empty hcurrent) h

/-! ## Modules that are listed -/

/-- Modules are found and listed by a loader, which is part of the state of the runner. -/
structure Runner.FindsBy (r : Runner ρ) (loader : ρ → Loader) : Prop where
  find? : ∀ modules t name, r.find? modules t name = (loader modules).find? t name
  available : ∀ modules t, r.available modules t = (loader modules).list t

theorem ScriptModules.findsBy : runner.FindsBy loader :=
  ⟨fun _ _ _ => rfl, fun _ _ => rfl⟩

/-- **Whatever a session was asked for, what is listed can be found**, if no search directory is the
empty path and there is neither a slash nor a dot in the extension of modules. -/
theorem serveAll_resolves {loader : ρ → Loader} (hfinds : settings.runner.FindsBy loader)
    (hkeeps : settings.runner.KeepsValid) (hfiles : s.files.IsValid)
    (h : Action.serveAll settings depth requests s = some run)
    (hpaths : ∀ d ∈ (loader run.session.modules).paths, d.text ≠ "")
    (hslash : '/' ∉ (loader run.session.modules).extension.toList)
    (hdot : '.' ∉ (loader run.session.modules).extension.toList) :
    ∀ name ∈ settings.runner.available run.session.modules run.session.files,
      (settings.runner.find? run.session.modules run.session.files name).isSome := by
  intro name hmem
  have hvalid := serveAll_isValid hkeeps hfiles h
  rw [hfinds.available] at hmem
  obtain ⟨-, -, p, hp⟩ := Loader.resolves_of_mem_list hvalid hpaths hslash hdot hmem
  rw [hfinds.find?, hp]
  rfl

end JsonShell
