import GirDoc.Proofs.C.Changes

/-!
# The schedule of a scan

Which trees a scan goes through can be told before it begins, from the files, the patterns and the units alone.
A file is parsed if a pattern covers it and no unit parsed before has it. The nodes of a listed file are gone
through once, in the first of the parsed units that has it. The main statement is `scan_follows_schedule`.

* `schedule` is the list of the steps that a scan takes, and `perform` takes one of them. The steps do not ask
  which files were gone through before.
* `Performs` says that a part of a scan does what a list of steps does, in all sessions in which the same files
  were gone through. It is kept by doing one part after the other (`Performs.bind`).
* What the steps go through is then a matter of lists (`mem_walks_stepsFrom`).
-/

namespace GirDoc.C

open Ast Session

/-! ## Units and their files -/

/-- Whether a file is one whose tree is to be gone through by itself. -/
def Plan.covers (plan : Plan) (file : String) : Bool := plan.patterns.any (Text.Glob.covers · file)

/-- The files that a unit includes, by their absolute paths. -/
def includesOf (u : SourceUnit) : List String := u.includedFiles.map Path.absolute

/-- The files that a unit has: its main file, then those that it includes. -/
def filesOf (u : SourceUnit) : List String := u.main :: includesOf u

/-- The unit that a file is parsed into. A file that cannot be parsed ends the scan, so it does not matter what
stands for its unit. -/
def unitOf (given : Environment) (file : String) : SourceUnit :=
  (given.units.find? (·.main = file)).getD { main := file }

theorem unitOf_main (given : Environment) (file : String) : (unitOf given file).main = file := by
  rw [unitOf]
  cases hunit : given.units.find? (·.main = file) with
  | none => rfl
  | some u =>
    have hmain := List.find?_some hunit
    exact of_decide_eq_true hmain

/-- The files with a guard that the text of a scan gets to know from a unit. -/
def guardedOf (plan : Plan) (u : SourceUnit) : List String :=
  [u.main].filter (fun file => decide (file ∈ u.guarded)) ++
    (includesOf u).filter fun file => decide (file ∈ u.guarded) && decide (file ∈ plan.files)

/-! ## Steps -/

/-- A step of going through trees. -/
inductive Step where
  /-- The main file of a unit is parsed. -/
  | parse (u : SourceUnit)
  /-- The diagnostics of a unit are reported. -/
  | report (u : SourceUnit)
  /-- A unit is asked for one of its files. -/
  | ask (u : SourceUnit) (file : String)
  /-- A file is noted as gone through. -/
  | mark (file : String)
  /-- The nodes that a unit has for a file are gone through. -/
  | walk (u : SourceUnit) (file : String)

/-- Comes to a file of a unit, and tells how deep its nodes can lead. -/
def openFile (u : SourceUnit) (file : String) : Doc Nat := do
  debug ("scanning " ++ file)
  if !u.knows file then throw .broken
  let _ ← Attempt.ofExcept (((← given).files.find file).mapError Fault.ofPath)
  return walkDepth u (← get).index

/-- Goes through the nodes that a unit has for a file. -/
def walkNodes (owner : Owner) (plan : Plan) (u : SourceUnit) (file : String) : Doc Unit := do
  let depth ← openFile u file
  ((u.annotated.lookup file).getD []).forM (walk owner plan u depth)

/-- Takes a step. -/
def perform (owner : Owner) (plan : Plan) (arguments : List String) : Step → Doc Unit
  | .parse u => do
    debug ("scanning " ++ u.main)
    let _ ← parseUnit u.main arguments 3
  | .report u => reportDiagnostics u
  | .ask u file => if !u.knows file then throw .broken else return
  | .mark file =>
    modify fun s => { s with scanner := { s.scanner with parsed := s.scanner.parsed ++ [file] } }
  | .walk u file => walkNodes owner plan u file

/-- The steps for one file of a unit, when the files `seen` were gone through before. -/
def visit (plan : Plan) (seen : List String) (u : SourceUnit) (file : String) : List Step :=
  if file ∈ seen then [] else .mark file :: if file ∈ plan.files then [.walk u file] else []

/-- The steps for files that a unit includes. -/
def visitAll (plan : Plan) (u : SourceUnit) : (seen : List String) → List String → List Step
  | _, [] => []
  | seen, file :: rest =>
    .ask u file :: visit plan seen u file ++ visitAll plan u (Gir.insertNew seen file) rest

/-- The steps for a unit: its main file comes first. -/
def unitSteps (plan : Plan) (seen : List String) (u : SourceUnit) : List Step :=
  .parse u :: .report u :: visit plan seen u u.main ++
    .ask u u.main :: visitAll plan u (Gir.insertNew seen u.main) (includesOf u)

/-- The files gone through once those of a unit were. -/
def seenAfter (seen : List String) (u : SourceUnit) : List String := (filesOf u).foldl Gir.insertNew seen

/-- The steps for files, when the files `seen` were gone through before. -/
def stepsFrom (given : Environment) (plan : Plan) : (seen : List String) → List String → List Step
  | _, [] => []
  | seen, file :: rest =>
    if file ∈ seen || !plan.covers file then stepsFrom given plan seen rest
    else unitSteps plan seen (unitOf given file) ++
      stepsFrom given plan (seenAfter seen (unitOf given file)) rest

/-- The steps of a scan. -/
def schedule (given : Environment) (plan : Plan) : List Step := stepsFrom given plan [] plan.files

/-- The units that steps parse. -/
def parsedUnits (steps : List Step) : List SourceUnit :=
  steps.filterMap fun
    | .parse u => some u
    | _ => none

/-- The files whose nodes steps go through, each with the unit that has the nodes. -/
def walks (steps : List Step) : List (SourceUnit × String) :=
  steps.filterMap fun
    | .walk u file => some (u, file)
    | _ => none

/-- What a scan begins with. It gives the arguments of the parser. -/
def opening (plan : Plan) : Doc (List String) := do
  loadLibrary
  info ("scanning " ++ toString plan.files.length ++ " C source files")
  let headers ← compilerHeaders
  let arguments := "-Wno-attributes" :: ("-isystem" ++ headers.getD "None") :: plan.options
  modify fun s => { s with scanner := {} }
  debug ("CFLAGS " ++ " ".intercalate arguments)
  return arguments

/-! ## Parts of a scan that do what steps do -/

section Performs

variable {α β : Type} (owner : Owner) (plan : Plan) (arguments : List String) {given : Environment}
  {seen seen' seen'' : List String} {steps steps' : List Step}

/-- A session was given this, and these files were gone through. -/
structure Stands (given : Environment) (seen : List String) (s : Session) : Prop where
  environment : s.environment = given
  parsed : s.scanner.parsed = seen

/-- A part of a scan does what steps do and gives `a`. After the steps, the files `seen'` were gone through. -/
structure Performs (given : Environment) (seen : List String) (m : Doc α) (steps : List Step)
    (seen' : List String) (a : α) : Prop where
  run : ∀ s, Stands given seen s → m.start s =
    Attempt.start (do steps.forM (perform owner plan arguments); return a) s
  stands : ∀ s t, Stands given seen s → (steps.forM (perform owner plan arguments)).start s = (.ok ⟨⟩, t) →
    Stands given seen' t

variable {owner plan arguments}

theorem forM_steps_append : (steps ++ steps').forM (perform owner plan arguments) =
    (do steps.forM (perform owner plan arguments); steps'.forM (perform owner plan arguments)) :=
  List.forM_append

theorem performs_pure (a : α) : Performs owner plan arguments given seen (pure a) [] seen a where
  run _ _ := rfl
  stands s t hs h := by
    cases h
    exact hs

theorem Performs.bind {m : Doc α} {k : α → Doc β} {a : α} {b : β}
    (hm : Performs owner plan arguments given seen m steps seen' a)
    (hk : Performs owner plan arguments given seen' (k a) steps' seen'' b) :
    Performs owner plan arguments given seen (m >>= k) (steps ++ steps') seen'' b := by
  refine ⟨fun s hs => ?_, fun s t hs h => ?_⟩
  · have hboth : (do (steps ++ steps').forM (perform owner plan arguments); return b : Doc β) =
        (do steps.forM (perform owner plan arguments); (do
          steps'.forM (perform owner plan arguments); return b)) := by
      rw [forM_steps_append, bind_assoc]
    have hfirst := hm.run s hs
    rw [hboth]
    -- where the first steps fail, so does the first part, and the second is not come to
    rcases hsteps : (steps.forM (perform owner plan arguments)).start s with ⟨e | _, t⟩
    · rw [Attempt.start_bind_error hsteps] at hfirst ⊢
      rw [Attempt.start_bind_error hfirst]
    · rw [Attempt.start_bind_ok hsteps] at hfirst ⊢
      rw [Attempt.start_bind_ok hfirst]
      exact hk.run t (hm.stands s t hs hsteps)
  · rw [forM_steps_append] at h
    obtain ⟨_, t₁, hsteps, h⟩ := Attempt.start_bind_eq_ok h
    exact hk.stands t₁ t (hm.stands s t₁ hs hsteps) h

/-- What was given and which files were gone through stays the same. -/
def Steady (s t : Session) : Prop := t.environment = s.environment ∧ t.scanner.parsed = s.scanner.parsed

theorem allowsFound_steady : AllowsFound Steady where
  refl _ := ⟨rfl, rfl⟩
  trans h h' := ⟨h'.1.trans h.1, h'.2.trans h.2⟩
  log _ _ := ⟨rfl, rfl⟩
  quoted _ _ := ⟨rfl, rfl⟩
  leftOut _ _ := ⟨rfl, rfl⟩
  add _ _ := ⟨rfl, rfl⟩
  change _ _ _ _ := ⟨rfl, rfl⟩
  request _ _ _ _ _ := ⟨rfl, rfl⟩
  found _ _ := ⟨rfl, rfl⟩

theorem Steady.stands {s t : Session} (h : Steady s t) (hs : Stands given seen s) : Stands given seen t :=
  ⟨h.1.trans hs.environment, h.2.trans hs.parsed⟩

/-- A part that is one step. -/
theorem performs_step {m : Doc α} {step : Step} {a : α}
    (hrun : ∀ s, Stands given seen s →
      m.start s = Attempt.start (do perform owner plan arguments step; return a) s)
    (hstands : ∀ s, Stands given seen s → Stands given seen' ((perform owner plan arguments step).start s).2) :
    Performs owner plan arguments given seen m [step] seen' a := by
  have hone : [step].forM (perform owner plan arguments) = perform owner plan arguments step :=
    bind_pure_unit
  refine ⟨fun s hs => ?_, fun s t hs h => ?_⟩
  · rw [hone]
    exact hrun s hs
  · rw [hone] at h
    have ht := hstands s hs
    rwa [h] at ht

theorem performs_steady {m : Doc Unit} {step : Step} (hm : m = perform owner plan arguments step)
    (hsteady : Leads Steady (perform owner plan arguments step)) :
    Performs owner plan arguments given seen m [step] seen () := by
  refine performs_step (fun s _ => ?_) fun s hs => (hsteady s).stands hs
  rw [hm]
  exact congrArg (Attempt.start · s) (bind_pure_unit).symm

end Performs

/-! ## The parts of a scan -/

section Parts

variable (owner : Owner) (plan : Plan) (arguments : List String) {given : Environment} {seen : List String}
  (u : SourceUnit) (file : String)

theorem performs_parse : Performs owner plan arguments given seen
    (do debug ("scanning " ++ file); parseUnit file arguments 3) [.parse (unitOf given file)] seen
    (unitOf given file) := by
  refine performs_step (fun s hs => ?_) fun s hs => ?_
  · simp only [perform, unitOf_main, bind_assoc]
    show Attempt.start (Attempt.need .notParsed (s.environment.units.find? (·.main = file))) _ =
      Attempt.start (Attempt.need .notParsed (s.environment.units.find? (·.main = file)) >>=
        fun _ => pure (unitOf given file)) _
    rw [hs.environment, unitOf]
    cases given.units.find? (·.main = file) <;> rfl
  · have hsteady : Leads Steady (perform owner plan arguments (.parse (unitOf given file))) := by
      have h := allowsFound_steady.toAllows
      exact h.bind (leads_note h _) fun _ => h.bind (leads_parseUnit h _ _ _) fun _ => h.pure _
    exact (hsteady s).stands hs

theorem performs_reportDiagnostics :
    Performs owner plan arguments given seen (reportDiagnostics u) [.report u] seen () :=
  performs_steady rfl (leads_reportDiagnostics allowsFound_steady.toAllows u)

theorem performs_addGuarded (guarded : List String) : Performs owner plan arguments given seen
    (addGuarded u guarded file) [.ask u file] seen (if file ∈ u.guarded then guarded ++ [file] else guarded) := by
  refine performs_step (fun s _ => ?_) fun s hs => ?_
  · rw [addGuarded, perform]
    cases u.knows file <;> rfl
  · rw [perform]
    cases u.knows file <;> exact hs

theorem leads_openFile {R : Session → Session → Prop} {P : SymbolKind → Prop} (h : Allows R P) :
    Leads R (openFile u file) := by
  refine h.bind (leads_note h _) fun _ => ?_
  split
  · exact h.throw _
  · exact h.bind h.given fun _ => h.bind (h.ofExcept _) fun _ => h.bind h.get fun _ => h.pure _

theorem walkNodes_eq : walkNodes owner plan u file = (do
    debug ("scanning " ++ file)
    if !u.knows file then throw .broken
    let _ ← Attempt.ofExcept (((← Session.given).files.find file).mapError Fault.ofPath)
    let depth := walkDepth u (← get).index
    ((u.annotated.lookup file).getD []).forM (walk owner plan u depth)) := by
  rw [walkNodes, openFile, bind_assoc]
  cases u.knows file with
  | true => simp only [Bool.not_true, Bool.false_eq_true, if_false, bind_assoc, pure_bind]
  | false => rfl

theorem performs_walkNodes :
    Performs owner plan arguments given seen (walkNodes owner plan u file) [.walk u file] seen () := by
  have h := allowsFound_steady.toAllows
  refine performs_steady rfl ?_
  refine h.bind (leads_openFile u file h) fun depth => ?_
  exact h.forM fun node _ => leads_walk allowsFound_steady owner u node plan depth

theorem performs_mark (hfile : file ∉ seen) : Performs owner plan arguments given seen
    (modify fun s => { s with scanner := { s.scanner with parsed := s.scanner.parsed ++ [file] } })
    [.mark file] (Gir.insertNew seen file) () := by
  refine performs_step (fun s _ => rfl) fun s hs => ⟨hs.environment, ?_⟩
  show s.scanner.parsed ++ [file] = _
  rw [hs.parsed, Gir.insertNew, if_neg hfile]

/-- **The nodes of a file are gone through unless the file was come to before.** -/
theorem performs_walkFile : Performs owner plan arguments given seen (walkFile owner plan u file)
    (visit plan seen u file) (Gir.insertNew seen file) () := by
  have hstart {s : Session} (hs : Stands given seen s) : (walkFile owner plan u file).start s =
      Attempt.start (if file ∈ seen then pure () else do
        modify fun s => { s with scanner := { s.scanner with parsed := s.scanner.parsed ++ [file] } }
        if file ∉ plan.files then pure () else walkNodes owner plan u file) s := by
    rw [walkFile, Attempt.start_bind_ok (Attempt.start_get s), hs.parsed, walkNodes_eq]
  suffices hparts : Performs owner plan arguments given seen (if file ∈ seen then pure () else do
        modify fun s => { s with scanner := { s.scanner with parsed := s.scanner.parsed ++ [file] } }
        if file ∉ plan.files then pure () else walkNodes owner plan u file)
      (visit plan seen u file) (Gir.insertNew seen file) () from
    ⟨fun s hs => (hstart hs).trans (hparts.run s hs), hparts.stands⟩
  rw [visit]
  by_cases hseen : file ∈ seen
  · rw [if_pos hseen, if_pos hseen, Gir.insertNew, if_pos hseen]
    exact performs_pure ()
  · have hmark : Performs owner plan arguments given seen _ [.mark file] (Gir.insertNew seen file) () :=
      performs_mark owner plan arguments file hseen
    rw [if_neg hseen, if_neg hseen]
    by_cases hlisted : file ∈ plan.files
    · rw [if_neg (not_not.mpr hlisted), if_pos hlisted]
      exact hmark.bind (performs_walkNodes owner plan arguments u file)
    · rw [if_pos hlisted, if_neg hlisted]
      exact hmark.bind (performs_pure ())

/-- The files that a unit includes, one after the other. -/
theorem performs_includes (files : List String) (guarded : List String) :
    Performs owner plan arguments given seen
      (files.foldlM (fun guarded file => do
        let more ← addGuarded u guarded file
        walkFile owner plan u file
        return if file ∈ plan.files then more else guarded) guarded)
      (visitAll plan u seen files) (files.foldl Gir.insertNew seen)
      (guarded ++ files.filter fun file => decide (file ∈ u.guarded) && decide (file ∈ plan.files)) := by
  induction files generalizing seen guarded with
  | nil =>
    rw [List.filter_nil, List.append_nil]
    exact performs_pure guarded
  | cons file rest ih =>
    have hguarded : (if file ∈ plan.files then if file ∈ u.guarded then guarded ++ [file] else guarded
          else guarded) ++ rest.filter (fun file => decide (file ∈ u.guarded) && decide (file ∈ plan.files)) =
        guarded ++ (file :: rest).filter
          fun file => decide (file ∈ u.guarded) && decide (file ∈ plan.files) := by
      by_cases hlisted : file ∈ plan.files <;> by_cases hguard : file ∈ u.guarded <;>
        simp [hlisted, hguard]
    have hvisit (more : List String) : Performs owner plan arguments given seen
        (do walkFile owner plan u file; return if file ∈ plan.files then more else guarded)
        (visit plan seen u file ++ []) (Gir.insertNew seen file) (if file ∈ plan.files then more else guarded) :=
      (performs_walkFile owner plan arguments u file).bind (performs_pure _)
    simp only [List.append_nil] at hvisit
    rw [← hguarded, List.foldlM_cons, visitAll]
    exact ((performs_addGuarded owner plan arguments u file guarded).bind (hvisit _)).bind (ih _)

/-- The steps that a unit takes. -/
theorem performs_unit (guarded : List String) : Performs owner plan arguments given seen
    (do
      let u ← (do debug ("scanning " ++ file); parseUnit file arguments 3)
      reportDiagnostics u
      walkFile owner plan u file
      let guarded ← addGuarded u guarded file
      u.includedFiles.foldlM (fun guarded included => do
        let path := Path.absolute included
        let more ← addGuarded u guarded path
        walkFile owner plan u path
        return if path ∈ plan.files then more else guarded) guarded)
    (unitSteps plan seen (unitOf given file)) (seenAfter seen (unitOf given file))
    (guarded ++ guardedOf plan (unitOf given file)) := by
  have hmain : (if file ∈ (unitOf given file).guarded then guarded ++ [file] else guarded) =
      guarded ++ [file].filter (fun main => decide (main ∈ (unitOf given file).guarded)) := by
    by_cases hguard : file ∈ (unitOf given file).guarded <;> simp [hguard]
  have hincludes := @performs_includes owner plan arguments given (Gir.insertNew seen file)
    (unitOf given file) (includesOf (unitOf given file))
  simp only [includesOf, List.foldlM_map] at hincludes
  rw [unitSteps, guardedOf, ← List.append_assoc, seenAfter, filesOf, List.foldl_cons, unitOf_main, ← hmain]
  refine (performs_parse owner plan arguments file).bind ?_
  refine (performs_reportDiagnostics owner plan arguments _).bind ?_
  refine (performs_walkFile owner plan arguments _ file).bind ?_
  refine (performs_addGuarded owner plan arguments _ file guarded).bind ?_
  exact hincludes _

/-- The steps that one file of a scan takes. -/
theorem performs_scanTree (guarded : List String) : Performs owner plan arguments given seen
    (scanTree owner plan arguments guarded file)
    (if file ∈ seen || !plan.covers file then [] else unitSteps plan seen (unitOf given file))
    (if file ∈ seen || !plan.covers file then seen else seenAfter seen (unitOf given file))
    (guarded ++ if file ∈ seen || !plan.covers file then [] else guardedOf plan (unitOf given file)) := by
  have hskips {m : Doc (List String)} {steps : List Step} {seen' : List String} {a : List String}
      (hstart : ∀ s, Stands given seen s → (scanTree owner plan arguments guarded file).start s = m.start s)
      (h : Performs owner plan arguments given seen m steps seen' a) :
      Performs owner plan arguments given seen (scanTree owner plan arguments guarded file) steps seen' a :=
    ⟨fun s hs => (hstart s hs).trans (h.run s hs), h.stands⟩
  by_cases hskip : (file ∈ seen || !plan.covers file) = true
  · rw [if_pos hskip, if_pos hskip, if_pos hskip, List.append_nil]
    refine hskips (fun s hs => ?_) (performs_pure guarded)
    rw [scanTree, Attempt.start_bind_ok (Attempt.start_get s), hs.parsed]
    by_cases hseen : file ∈ seen
    · rw [if_pos hseen]
    · rw [if_neg hseen]
      have hcovers : (!plan.covers file) = true := by simpa [hseen] using hskip
      exact congrArg (Attempt.start · s) (if_pos hcovers)
  · rw [if_neg hskip, if_neg hskip, if_neg hskip]
    refine hskips (fun s hs => ?_) (performs_unit owner plan arguments file guarded)
    have hseen : file ∉ seen := fun hmem => hskip (by simp [hmem])
    have hcovers : ¬ (!plan.covers file) = true := fun h => hskip (by simp [h])
    rw [scanTree, Attempt.start_bind_ok (Attempt.start_get s), hs.parsed, if_neg hseen, bind_assoc]
    exact congrArg (Attempt.start · s) (if_neg hcovers)

end Parts

/-! ## What steps go through -/

section Lists

variable {given : Environment} {plan : Plan} {seen : List String} {u : SourceUnit} {file : String}

theorem parsedUnits_append (steps steps' : List Step) :
    parsedUnits (steps ++ steps') = parsedUnits steps ++ parsedUnits steps' := List.filterMap_append

theorem walks_append (steps steps' : List Step) : walks (steps ++ steps') = walks steps ++ walks steps' :=
  List.filterMap_append

/-- The files that were not seen before, each of them once. -/
def fresh : (seen : List String) → List String → List String
  | _, [] => []
  | seen, file :: rest =>
    if file ∈ seen then fresh seen rest else file :: fresh (Gir.insertNew seen file) rest

theorem mem_fresh {files : List String} : file ∈ fresh seen files ↔ file ∈ files ∧ file ∉ seen := by
  induction files generalizing seen with
  | nil => simp [fresh]
  | cons first rest ih =>
    rw [fresh]
    split
    · next hseen =>
      rw [ih, List.mem_cons]
      constructor
      · exact fun h => ⟨Or.inr h.1, h.2⟩
      · rintro ⟨rfl | hrest, hnew⟩
        · exact absurd hseen hnew
        · exact ⟨hrest, hnew⟩
    · next hnew =>
      rw [List.mem_cons, ih, Gir.mem_insertNew, List.mem_cons]
      by_cases hfirst : file = first
      · simp [hfirst, hnew]
      · simp [hfirst]

theorem nodup_fresh (seen files : List String) : (fresh seen files).Nodup := by
  induction files generalizing seen with
  | nil => exact List.nodup_nil
  | cons first rest ih =>
    rw [fresh]
    split
    · exact ih seen
    · refine List.nodup_cons.mpr ⟨fun hmem => ?_, ih _⟩
      exact (mem_fresh.mp hmem).2 (Gir.mem_insertNew.mpr (Or.inr rfl))

theorem fresh_sublist (seen files : List String) : (fresh seen files).Sublist files := by
  induction files generalizing seen with
  | nil => exact List.Sublist.refl _
  | cons first rest ih =>
    rw [fresh]
    split
    · exact (ih seen).cons first
    · exact (ih _).cons_cons first

theorem mem_seenAfter : file ∈ seenAfter seen u ↔ file ∈ seen ∨ file ∈ filesOf u := by
  rw [seenAfter]
  induction filesOf u generalizing seen with
  | nil => simp
  | cons first rest ih => rw [List.foldl_cons, ih, Gir.mem_insertNew, List.mem_cons, or_assoc]

/-- The files gone through on a visit. -/
theorem walks_visit (plan : Plan) (seen : List String) (u : SourceUnit) (file : String) (rest : List String) :
    walks (visit plan seen u file) ++
        ((fresh (Gir.insertNew seen file) rest).filter (fun f => decide (f ∈ plan.files))).map (u, ·) =
      ((fresh seen (file :: rest)).filter fun f => decide (f ∈ plan.files)).map (u, ·) := by
  rw [visit, fresh]
  by_cases hseen : file ∈ seen
  · rw [if_pos hseen, if_pos hseen, Gir.insertNew, if_pos hseen]
    rfl
  · by_cases hlisted : file ∈ plan.files <;> simp [hseen, hlisted, walks]

theorem walks_visitAll (seen files : List String) : walks (visitAll plan u seen files) =
    ((fresh seen files).filter fun f => decide (f ∈ plan.files)).map (u, ·) := by
  induction files generalizing seen with
  | nil => rfl
  | cons file rest ih =>
    rw [visitAll, walks_append, ih, ← walks_visit plan seen u file rest]
    rfl

/-- **A unit goes through its files that were not seen before and are listed.** -/
theorem walks_unitSteps (plan : Plan) (seen : List String) (u : SourceUnit) : walks (unitSteps plan seen u) =
    ((fresh seen (filesOf u)).filter fun f => decide (f ∈ plan.files)).map (u, ·) := by
  rw [unitSteps, walks_append, filesOf, ← walks_visit, ← walks_visitAll]
  rfl

theorem parsedUnits_visit (plan : Plan) (seen : List String) (u : SourceUnit) (file : String) :
    parsedUnits (visit plan seen u file) = [] := by
  rw [visit]
  by_cases hseen : file ∈ seen <;> by_cases hlisted : file ∈ plan.files <;>
    simp [hseen, hlisted, parsedUnits]

theorem parsedUnits_unitSteps (plan : Plan) (seen : List String) (u : SourceUnit) (steps : List Step) :
    parsedUnits (unitSteps plan seen u ++ steps) = u :: parsedUnits steps := by
  have hincludes (seen files : List String) : parsedUnits (visitAll plan u seen files) = [] := by
    induction files generalizing seen with
    | nil => rfl
    | cons file rest ih =>
      rw [visitAll, parsedUnits_append, ih, List.append_nil]
      exact parsedUnits_visit plan seen u file
  rw [parsedUnits_append, unitSteps, parsedUnits_append]
  show u :: parsedUnits (visit plan seen u u.main) ++ parsedUnits (visitAll plan u _ _) ++ _ = _
  rw [parsedUnits_visit, hincludes]
  rfl

theorem stepsFrom_skip {rest : List String} (hskip : (file ∈ seen || !plan.covers file) = true) :
    stepsFrom given plan seen (file :: rest) = stepsFrom given plan seen rest := by
  rw [stepsFrom, if_pos hskip]

theorem stepsFrom_parse {rest : List String} (hparse : ¬ (file ∈ seen || !plan.covers file) = true) :
    stepsFrom given plan seen (file :: rest) = unitSteps plan seen (unitOf given file) ++
      stepsFrom given plan (seenAfter seen (unitOf given file)) rest := by
  rw [stepsFrom, if_neg hparse]

/-- A unit that the steps parse is that of a listed file that was not seen before. -/
theorem of_mem_parsedUnits {files : List String} (hu : u ∈ parsedUnits (stepsFrom given plan seen files)) :
    u = unitOf given u.main ∧ plan.covers u.main = true ∧ u.main ∉ seen := by
  fun_induction stepsFrom given plan seen files with
  | case1 => cases hu
  | case2 seen first rest hskip ih => exact ih hu
  | case3 seen first rest hparse ih =>
    rw [parsedUnits_unitSteps, List.mem_cons] at hu
    rcases hu with rfl | hu
    · have hnew : first ∉ seen ∧ plan.covers first = true := by simpa using hparse
      rw [unitOf_main]
      exact ⟨rfl, hnew.2, hnew.1⟩
    · obtain ⟨hunit, hcovers, hnew⟩ := ih hu
      exact ⟨hunit, hcovers, fun hseen => hnew (mem_seenAfter.mpr (Or.inl hseen))⟩

/-- A file that was parsed is the main file of no later unit. -/
theorem main_ne_of_mem_parsedUnits {files : List String} {first : String}
    (hu : u ∈ parsedUnits (stepsFrom given plan (seenAfter seen (unitOf given first)) files)) :
    u.main ≠ first := by
  rintro rfl
  refine (of_mem_parsedUnits hu).2.2 (mem_seenAfter.mpr (Or.inr ?_))
  rw [filesOf, unitOf_main]
  exact List.mem_cons_self

/-- **A file is parsed if a pattern covers it and no unit parsed for a file before it has it.** -/
theorem exists_main_iff {files before after : List String} (hfiles : files = before ++ file :: after)
    (hfirst : file ∉ before) :
    (∃ u ∈ parsedUnits (stepsFrom given plan seen files), u.main = file) ↔
      plan.covers file = true ∧ file ∉ seen ∧
        ∀ u ∈ parsedUnits (stepsFrom given plan seen files), u.main ∈ before → file ∉ filesOf u := by
  induction before generalizing files seen with
  | nil =>
    subst hfiles
    have hnone (u : SourceUnit) : u.main ∈ [] → file ∉ filesOf u := fun h => by cases h
    constructor
    · rintro ⟨u, hu, rfl⟩
      exact ⟨(of_mem_parsedUnits hu).2.1, (of_mem_parsedUnits hu).2.2, fun u _ => hnone u⟩
    · rintro ⟨hcovers, hnew, -⟩
      have hparse : ¬ (file ∈ seen || !plan.covers file) = true := by simp [hnew, hcovers]
      refine ⟨unitOf given file, ?_, unitOf_main given file⟩
      rw [List.nil_append, stepsFrom_parse hparse, parsedUnits_unitSteps]
      exact List.mem_cons_self
  | cons first before ih =>
    obtain ⟨hne, hbefore⟩ := not_or.mp (mt List.mem_cons.mpr hfirst)
    subst hfiles
    rw [List.cons_append]
    by_cases hskip : (first ∈ seen || !plan.covers first) = true
    · rw [stepsFrom_skip hskip, ih rfl hbefore]
      -- a file that is passed over is the main file of no unit
      have hmain : ∀ u ∈ parsedUnits (stepsFrom given plan seen (before ++ file :: after)),
          u.main ≠ first := by
        rintro u hu rfl
        obtain ⟨-, hcovers, hnew⟩ := of_mem_parsedUnits hu
        simp [hcovers, hnew] at hskip
      simp only [List.mem_cons]
      refine and_congr_right fun _ => and_congr_right fun _ => forall₂_congr fun u hu => ?_
      simp only [hmain u hu, false_or]
    · rw [stepsFrom_parse hskip, parsedUnits_unitSteps]
      simp only [List.mem_cons, forall_eq_or_imp, exists_eq_or_imp, unitOf_main, Ne.symm hne, false_or,
        true_or, true_imp_iff, ih rfl hbefore, mem_seenAfter, not_or]
      rw [and_assoc]
      refine and_congr_right fun _ => and_congr_right fun _ => and_congr_right fun _ => ?_
      refine forall₂_congr fun u hu => ?_
      simp only [main_ne_of_mem_parsedUnits hu, false_or]

theorem main_parsedUnits_sublist (seen files : List String) :
    ((parsedUnits (stepsFrom given plan seen files)).map (·.main)).Sublist files := by
  fun_induction stepsFrom given plan seen files with
  | case1 => exact List.Sublist.refl _
  | case2 seen first rest hskip ih => exact ih.cons first
  | case3 seen first rest hparse ih =>
    rw [parsedUnits_unitSteps, List.map_cons, unitOf_main]
    exact ih.cons_cons first

theorem nodup_main_parsedUnits (seen files : List String) :
    ((parsedUnits (stepsFrom given plan seen files)).map (·.main)).Nodup := by
  fun_induction stepsFrom given plan seen files with
  | case1 => exact List.nodup_nil
  | case2 seen first rest hskip ih => exact ih
  | case3 seen first rest hparse ih =>
    rw [parsedUnits_unitSteps, List.map_cons, unitOf_main, List.nodup_cons]
    refine ⟨fun hmem => ?_, ih⟩
    obtain ⟨u, hu, hmain⟩ := List.mem_map.mp hmem
    exact main_ne_of_mem_parsedUnits hu hmain

/-- **The nodes of a file are gone through in the first unit that has it**, if it is listed. -/
theorem mem_walks_stepsFrom {files : List String} :
    (u, file) ∈ walks (stepsFrom given plan seen files) ↔ file ∈ plan.files ∧ file ∉ seen ∧
      (parsedUnits (stepsFrom given plan seen files)).find? (fun u => decide (file ∈ filesOf u)) = some u := by
  fun_induction stepsFrom given plan seen files with
  | case1 => simp [walks, parsedUnits]
  | case2 seen first rest hskip ih => exact ih
  | case3 seen first rest hparse ih =>
    rw [walks_append, parsedUnits_unitSteps, List.mem_append, ih, walks_unitSteps, mem_seenAfter, List.find?_cons]
    simp only [List.mem_map, List.mem_filter, mem_fresh, decide_eq_true_iff, Prod.mk.injEq]
    by_cases hhas : file ∈ filesOf (unitOf given first)
    · simp only [hhas, or_true, not_true_eq_false, false_and, and_false, or_false, decide_true,
        Option.some.injEq]
      constructor
      · rintro ⟨f, ⟨⟨-, hnew⟩, hlisted⟩, rfl, rfl⟩
        exact ⟨hlisted, hnew, rfl⟩
      · rintro ⟨hlisted, hnew, rfl⟩
        exact ⟨file, ⟨⟨hhas, hnew⟩, hlisted⟩, rfl, rfl⟩
    · simp only [hhas, or_false, decide_false]
      constructor
      · rintro (⟨f, ⟨⟨hf, -⟩, -⟩, -, rfl⟩ | h)
        · exact absurd hf hhas
        · exact h
      · exact Or.inr

theorem nodup_walks_stepsFrom (seen files : List String) :
    ((walks (stepsFrom given plan seen files)).map Prod.snd).Nodup := by
  fun_induction stepsFrom given plan seen files with
  | case1 => exact List.nodup_nil
  | case2 seen first rest hskip ih => exact ih
  | case3 seen first rest hparse ih =>
    have hfirst : (walks (unitSteps plan seen (unitOf given first))).map Prod.snd =
        (fresh seen (filesOf (unitOf given first))).filter fun f => decide (f ∈ plan.files) := by
      rw [walks_unitSteps, List.map_map]
      exact List.map_id _
    rw [walks_append, List.map_append, List.nodup_append, hfirst]
    refine ⟨(nodup_fresh _ _).filter _, ih, ?_⟩
    -- what a later unit goes through is no file of this one
    rintro f hf _ hf' rfl
    obtain ⟨⟨u, f⟩, hwalk, rfl⟩ := List.mem_map.mp hf'
    have hnew := (mem_walks_stepsFrom.mp hwalk).2.1
    exact hnew (mem_seenAfter.mpr (Or.inr (mem_fresh.mp (List.mem_filter.mp hf).1).1))

theorem walks_stepsFrom_sublist (seen files : List String) :
    (walks (stepsFrom given plan seen files)).Sublist
      ((parsedUnits (stepsFrom given plan seen files)).flatMap fun u => (filesOf u).map (u, ·)) := by
  fun_induction stepsFrom given plan seen files with
  | case1 => exact List.Sublist.refl _
  | case2 seen first rest hskip ih => exact ih
  | case3 seen first rest hparse ih =>
    rw [walks_append, parsedUnits_unitSteps, List.flatMap_cons, walks_unitSteps]
    exact ((List.filter_sublist.trans (fresh_sublist _ _)).map _).append ih

end Lists

/-! ## The whole scan -/

section Scan

variable (owner : Owner) (plan : Plan)

theorem performs_trees (arguments : List String) (given : Environment) (seen files guarded : List String) :
    ∃ seen', Performs owner plan arguments given seen (files.foldlM (scanTree owner plan arguments) guarded)
      (stepsFrom given plan seen files) seen'
      (guarded ++ (parsedUnits (stepsFrom given plan seen files)).flatMap (guardedOf plan)) := by
  fun_induction stepsFrom given plan seen files generalizing guarded with
  | case1 seen =>
    refine ⟨seen, ?_⟩
    rw [parsedUnits, List.filterMap_nil, List.flatMap_nil, List.append_nil]
    exact performs_pure guarded
  | case2 seen file rest hskip ih =>
    have hfile := @performs_scanTree owner plan arguments given seen file guarded
    rw [if_pos hskip, if_pos hskip, if_pos hskip, List.append_nil] at hfile
    rw [List.foldlM_cons]
    obtain ⟨seen', hrest⟩ := ih guarded
    exact ⟨seen', hfile.bind hrest⟩
  | case3 seen file rest hparse ih =>
    -- the unit of the file comes first, and the files that are left find all of its files seen
    have hfile := @performs_scanTree owner plan arguments given seen file guarded
    rw [if_neg hparse, if_neg hparse, if_neg hparse] at hfile
    rw [List.foldlM_cons, parsedUnits_unitSteps, List.flatMap_cons, ← List.append_assoc]
    obtain ⟨seen', hrest⟩ := ih (guarded ++ guardedOf plan (unitOf given file))
    exact ⟨seen', hfile.bind hrest⟩

theorem scan_eq_opening : scan owner plan = (do
    let arguments ← opening plan
    let guarded ← plan.files.foldlM (scanTree owner plan arguments) []
    if !plan.treesOnly then plan.files.forM (scanText owner guarded)) := by
  simp only [scan, opening, bind_assoc, pure_bind]

/-- What was given stays the same. -/
theorem allowsTrees_environment : AllowsTrees fun s t => t.environment = s.environment where
  refl _ := rfl
  trans h h' := h'.trans h
  log _ _ := rfl
  quoted _ _ := rfl
  leftOut _ _ := rfl
  add _ _ := rfl
  change _ _ _ _ := rfl
  request _ _ _ _ _ := rfl
  scanner _ _ := rfl
  library _ _ := rfl

theorem leads_opening {R : Session → Session → Prop} {P : SymbolKind → Prop} (h : AllowsTrees R P) :
    Leads R (opening plan) := by
  refine h.bind (leads_loadLibrary h) fun _ => h.bind (leads_note h.toAllows _) fun _ => ?_
  refine h.bind (leads_compilerHeaders h) fun _ => h.bind (fun s => h.scanner s {}) fun _ => ?_
  exact h.bind (leads_note h.toAllows _) fun _ => h.pure _

/-- Once a scan was opened, nothing was found yet and no file gone through. -/
theorem scanner_opening {plan : Plan} {s t : Session} {arguments : List String}
    (h : (opening plan).start s = (.ok arguments, t)) : t.scanner = {} := by
  obtain ⟨_, t₁, -, h⟩ := Attempt.start_bind_eq_ok h
  obtain ⟨_, t₂, -, h⟩ := Attempt.start_bind_eq_ok h
  obtain ⟨headers, t₃, -, h⟩ := Attempt.start_bind_eq_ok h
  cases h
  rfl

theorem environment_opening {plan : Plan} {s t : Session} {arguments : List String}
    (h : (opening plan).start s = (.ok arguments, t)) : t.environment = s.environment := by
  have hgiven := leads_opening plan allowsTrees_environment s
  rwa [h] at hgiven

/-- **A scan takes the steps of its schedule**, between its opening and the texts. -/
theorem start_scan (s : Session) : (scan owner plan).start s = Attempt.start (do
    let arguments ← opening plan
    (schedule s.environment plan).forM (perform owner plan arguments)
    if !plan.treesOnly then plan.files.forM (scanText owner
      ((parsedUnits (schedule s.environment plan)).flatMap (guardedOf plan)))) s := by
  rw [scan_eq_opening]
  rcases hopening : (opening plan).start s with ⟨e | arguments, t⟩
  · rw [Attempt.start_bind_error hopening, Attempt.start_bind_error hopening]
  have ht : Stands s.environment [] t :=
    ⟨environment_opening hopening, congrArg Scanner.parsed (scanner_opening hopening)⟩
  obtain ⟨seen', htrees⟩ := performs_trees owner plan arguments s.environment [] plan.files []
  rw [Attempt.start_bind_ok hopening, Attempt.start_bind_ok hopening]
  have hrun := htrees.run t ht
  rcases hsteps : ((schedule s.environment plan).forM (perform owner plan arguments)).start t with ⟨e | _, t'⟩
  · have hfail := hrun.trans (Attempt.start_bind_error hsteps)
    rw [Attempt.start_bind_error hsteps, Attempt.start_bind_error hfail]
  · have hdone := hrun.trans (Attempt.start_bind_ok hsteps)
    rw [Attempt.start_bind_ok hsteps, Attempt.start_bind_ok hdone]
    rfl

/-- What a scan parses, and which files it goes through in which units. -/
structure Itinerary (given : Environment) (plan : Plan) (units : List SourceUnit)
    (walked : List (SourceUnit × String)) : Prop where
  /-- Files are parsed in their order, each at most once. -/
  units_sublist : (units.map (·.main)).Sublist plan.files
  units_nodup : (units.map (·.main)).Nodup
  units_given : ∀ u ∈ units, u = unitOf given u.main
  /-- A file has a unit of its own if a pattern covers it and no unit of a file before it has it. -/
  parsed_iff : ∀ before file after, plan.files = before ++ file :: after → file ∉ before →
    ((∃ u ∈ units, u.main = file) ↔
      plan.covers file = true ∧ ∀ u ∈ units, u.main ∈ before → file ∉ filesOf u)
  /-- The nodes of a listed file are those of the first unit that has it. -/
  walked_iff : ∀ u file, (u, file) ∈ walked ↔
    file ∈ plan.files ∧ units.find? (fun u => decide (file ∈ filesOf u)) = some u
  walked_nodup : (walked.map Prod.snd).Nodup
  /-- Units come one after the other, in each the main file before those it includes. -/
  walked_sublist : walked.Sublist (units.flatMap fun u => (filesOf u).map (u, ·))
  /-- Files that are not listed are left alone, and so are those that no pattern covers and no unit includes. -/
  not_walked : ∀ file, (file ∉ plan.files ∨ plan.covers file = false ∧ ∀ u ∈ units, file ∉ includesOf u) →
    ∀ u, (u, file) ∉ walked

theorem not_mem_walks {given : Environment} {file : String}
    (hfile : file ∉ plan.files ∨ plan.covers file = false ∧
      ∀ u ∈ parsedUnits (schedule given plan), file ∉ includesOf u) (u : SourceUnit) :
    (u, file) ∉ walks (schedule given plan) := by
  intro hwalk
  obtain ⟨hlisted, -, hfind⟩ := mem_walks_stepsFrom.mp hwalk
  have hu := List.mem_of_find?_eq_some hfind
  have hhas := List.find?_some hfind
  rw [decide_eq_true_iff] at hhas
  rcases hfile with hfile | ⟨hcovers, hincludes⟩
  · exact hfile hlisted
  · rcases List.mem_cons.mp hhas with rfl | hhas
    · exact Bool.false_ne_true (hcovers.symm.trans (of_mem_parsedUnits hu).2.1)
    · exact hincludes u hu hhas

/-- **A scan goes through the nodes of each listed file at most once**, in the first of the units it parses that
has the file. It takes one step of its schedule after the other until one fails, and nothing else goes through
nodes. -/
theorem scan_follows_schedule (s : Session) :
    (scan owner plan).start s = Attempt.start (do
      let arguments ← opening plan
      (schedule s.environment plan).forM (perform owner plan arguments)
      if !plan.treesOnly then plan.files.forM (scanText owner
        ((parsedUnits (schedule s.environment plan)).flatMap (guardedOf plan)))) s ∧
    Itinerary s.environment plan (parsedUnits (schedule s.environment plan))
      (walks (schedule s.environment plan)) := by
  refine ⟨start_scan owner plan s, ?_⟩
  exact {
    units_sublist := main_parsedUnits_sublist [] plan.files
    units_nodup := nodup_main_parsedUnits [] plan.files
    units_given := fun u hu => (of_mem_parsedUnits hu).1
    parsed_iff := fun before file after hfiles hfirst => by
      have hiff := @exists_main_iff s.environment plan [] file _ before after hfiles hfirst
      simpa only [schedule, List.not_mem_nil, not_false_eq_true, true_and] using hiff
    walked_iff := fun u file => by
      have hiff := @mem_walks_stepsFrom s.environment plan [] u file plan.files
      simpa only [schedule, List.not_mem_nil, not_false_eq_true, true_and] using hiff
    walked_nodup := nodup_walks_stepsFrom [] plan.files
    walked_sublist := walks_stepsFrom_sublist [] plan.files
    not_walked := fun file hfile => not_mem_walks plan hfile }

end Scan

end GirDoc.C
