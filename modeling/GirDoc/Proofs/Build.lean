import Mathlib.Data.List.Basic
import GirDoc.Build

/-!
# The sources of a module over many builds

A module with grammars gets its generated scanner as a source each time that a run of the build comes to it, whether
the scanner is generated, is up to date or cannot be generated. So its sources never lose or change what they
were, but they grow with every run.

* `Module.grown` is a module whose scanner joined its sources a number of times; a run comes to `visits`, and each of
  them grows its module by one (`getElem?_runModules`, `getElem?_afterRounds`).
* The generator is started exactly if the scanner is missing or older than one of its sources, unless a source is
  missing and none before it is newer (`outdated_eq_true_iff`).
* `KeepsSources` is what a stable list of sources would be. `keepsSources_iff` tells which runs keep it up.
-/

namespace GirDoc.Build

/-! ## What has to be generated -/

section Times

variable {d : Disk} {t : Int} {sources : List String} {path target : String}

/-- There is nothing at a path. -/
def IsMissing (d : Disk) (path : String) : Prop := ∃ e, d.time path = .error e

/-- What is at a path is newer than a time. -/
def IsNewer (d : Disk) (t : Int) (path : String) : Prop := ∃ t', d.time path = .ok t' ∧ t < t'

/-- A source is missing, and none of those before it is newer than a time. -/
def StopsAtMissing (d : Disk) (t : Int) (sources : List String) : Prop :=
  ∃ before path after, sources = before ++ path :: after ∧ IsMissing d path ∧ ∀ p ∈ before, ¬ IsNewer d t p

theorem stopsAtMissing_cons :
    StopsAtMissing d t (path :: sources) ↔
      IsMissing d path ∨ ¬ IsNewer d t path ∧ StopsAtMissing d t sources := by
  constructor
  · rintro ⟨_ | ⟨p, before⟩, path', after, heq, hmissing, hnone⟩
    · obtain ⟨rfl, rfl⟩ := List.cons.inj heq
      exact Or.inl hmissing
    · obtain ⟨rfl, rfl⟩ := List.cons.inj heq
      rw [List.forall_mem_cons] at hnone
      exact Or.inr ⟨hnone.1, before, path', after, rfl, hmissing, hnone.2⟩
  · rintro (hmissing | ⟨hnot, before, path', after, rfl, hmissing, hnone⟩)
    · exact ⟨[], path, sources, rfl, hmissing, fun _ h => (List.not_mem_nil h).elim⟩
    · exact ⟨path :: before, path', after, rfl, hmissing, List.forall_mem_cons.mpr ⟨hnot, hnone⟩⟩

/-- Sources are looked at up to the first that is newer, or missing. -/
theorem anyNewer_eq_true_iff :
    anyNewer d t sources = .ok true ↔ (∃ path ∈ sources, IsNewer d t path) ∧ ¬ StopsAtMissing d t sources := by
  induction sources with
  | nil => simp [anyNewer]
  | cons path rest ih =>
    rw [anyNewer, stopsAtMissing_cons, List.exists_mem_cons_iff, IsMissing]
    cases htime : d.time path with
    | error e => simp
    | ok t' =>
      have hnewer : IsNewer d t path ↔ t < t' := by simp [IsNewer, htime]
      rw [hnewer]
      by_cases hlt : t < t'
      · simp [hlt]
      · simp [hlt, ih]

/-- A scanner is missing, or older than one of its sources. -/
def IsStale (d : Disk) (sources : List String) (target : String) : Prop :=
  IsMissing d target ∨ ∃ t, d.time target = .ok t ∧ ∃ path ∈ sources, IsNewer d t path

/-- A scanner is there, and looking at its sources stops at one that is missing. -/
def IsBlocked (d : Disk) (sources : List String) (target : String) : Prop :=
  ∃ t, d.time target = .ok t ∧ StopsAtMissing d t sources

/-- **A scanner is made if it is missing or older than one of its sources**, unless a missing source is met first. -/
theorem outdated_eq_true_iff :
    outdated d sources target = .ok true ↔ IsStale d sources target ∧ ¬ IsBlocked d sources target := by
  rw [outdated, IsStale, IsBlocked, IsMissing]
  cases htime : d.time target with
  | error e => simp
  | ok t => simp [anyNewer_eq_true_iff]

end Times

/-! ## Building one module -/

namespace Module

/-- The sources of the generated scanner. -/
def scannerSources (m : Module) : List String := (m.grammars.getD []).map sourcePath

/-- The generated scanner, if there is one. -/
def scanner? (m : Module) : Option String := m.scannerSources.head?.map scannerPath

/-- A module whose scanner joined its sources a number of times. -/
def grown (m : Module) (n : Nat) : Module :=
  { m with sources := m.sources ++ (List.replicate n m.scanner?.toList).flatten }

variable (m : Module)

theorem grown_zero : m.grown 0 = m := by
  rw [grown, List.replicate_zero, List.flatten_nil, List.append_nil]

theorem grown_grown (n k : Nat) : (m.grown n).grown k = m.grown (n + k) := by
  show { m with sources := m.sources ++ _ ++ (List.replicate k m.scanner?.toList).flatten } = m.grown (n + k)
  rw [grown, List.replicate_add, List.flatten_append, List.append_assoc]

theorem count_grown {target : String} (h : m.scanner? = some target) (n : Nat) (path : String) :
    (m.grown n).sources.count path = m.sources.count path + if path = target then n else 0 := by
  rw [grown, h]
  show (m.sources ++ (List.replicate n [target]).flatten).count path = _
  rw [List.flatten_replicate_singleton, List.count_append, List.count_replicate]
  exact congrArg (_ + ·) (if_congr (beq_iff_eq.trans eq_comm) rfl rfl)

theorem sources_grown_of_none (h : m.scanner? = none) (n : Nat) : (m.grown n).sources = m.sources := by
  rw [grown, h]
  show m.sources ++ (List.replicate n []).flatten = _
  rw [List.flatten_replicate_nil, List.append_nil]

theorem count_grown_of_ne {path : String} (h : m.scanner? ≠ some path) (n : Nat) :
    (m.grown n).sources.count path = m.sources.count path := by
  cases hscanner : m.scanner? with
  | none => rw [m.sources_grown_of_none hscanner]
  | some target =>
    have hne : path ≠ target := fun heq => h (heq ▸ hscanner)
    rw [m.count_grown hscanner, if_neg hne, Nat.add_zero]

theorem sources_grown_eq_iff (n : Nat) : (m.grown n).sources = m.sources ↔ m.scanner? = none ∨ n = 0 := by
  cases hscanner : m.scanner? with
  | none => exact iff_of_true (m.sources_grown_of_none hscanner n) (Or.inl rfl)
  | some target =>
    constructor
    · intro heq
      have hcount := m.count_grown hscanner n target
      rw [heq, if_pos rfl] at hcount
      exact Or.inr (by omega)
    · rintro (hnone | rfl)
      · nomatch hnone
      · rw [grown_zero]

/-- The generator is started when a module is built. -/
def Spawns (works : Bool) (path : Option String) (s : State) : Prop :=
  ∃ command, Event.spawn command ∈ (m.buildCustom works path s).2.1.events.drop s.events.length

/-- The scanner of a module is missing, or older than one of its sources. -/
def IsStale (d : Disk) : Prop := ∃ target, m.scanner? = some target ∧ Build.IsStale d m.scannerSources target

/-- The scanner of a module is there, and looking at its sources stops at one that is missing. -/
def IsBlocked (d : Disk) : Prop := ∃ target, m.scanner? = some target ∧ Build.IsBlocked d m.scannerSources target

/-- **Building a module**: its scanner joins its sources whatever happens, and the generator is started exactly if
the scanner has to be made. -/
theorem buildCustom_spec (works : Bool) (path : Option String) (s : State) :
    (m.buildCustom works path s).1 = m.grown 1 ∧ ∃ told,
      (m.buildCustom works path s).2.1.events = s.events ++ told ∧
      ((∃ command, Event.spawn command ∈ told) ↔
        ∃ target, m.scanner? = some target ∧ outdated s.disk m.scannerSources target = .ok true) := by
  obtain ⟨name, sources, grammars⟩ := m
  rcases grammars with _ | _ | ⟨first, rest⟩
  · refine ⟨(grown_zero _).symm, [], (List.append_nil _).symm, ?_⟩
    simp [scanner?, scannerSources]
  · refine ⟨(grown_zero _).symm, [.custom name path], rfl, ?_⟩
    simp [scanner?, scannerSources]
  rcases hout : outdated s.disk (sourcePath first :: rest.map sourcePath) (scannerPath (sourcePath first)) with
    e | _ | _
  all_goals simp only [buildCustom, List.map_cons, hout]
  · refine ⟨rfl, [.custom name path], rfl, ?_⟩
    simp [scanner?, scannerSources, hout]
  · refine ⟨rfl, [.custom name path], rfl, ?_⟩
    simp [scanner?, scannerSources, hout]
  · have hspawn : (∃ command, Event.spawn command ∈ [Event.custom name path,
        .spawn (["flex", "-o", scannerPath (sourcePath first)] ++ sourcePath first :: rest.map sourcePath)]) ↔
        ∃ target, scanner? ⟨name, sources, some (first :: rest)⟩ = some target ∧
          outdated s.disk (scannerSources ⟨name, sources, some (first :: rest)⟩) target = .ok true :=
      iff_of_true ⟨_, List.mem_cons_of_mem _ List.mem_cons_self⟩ ⟨_, rfl, hout⟩
    -- whether the generator works and its output can be written makes no difference to either
    cases works with
    | false => exact ⟨rfl, _, List.append_assoc _ _ _, hspawn⟩
    | true => cases s.disk.write (scannerPath (sourcePath first)) generatedTime <;>
        exact ⟨rfl, _, List.append_assoc _ _ _, hspawn⟩

/-- **The generator is started exactly if the scanner is missing or older than one of its sources**, unless a missing
source is met first. -/
theorem spawns_iff (works : Bool) (path : Option String) (s : State) :
    m.Spawns works path s ↔ m.IsStale s.disk ∧ ¬ m.IsBlocked s.disk := by
  obtain ⟨-, told, hevents, hspawn⟩ := m.buildCustom_spec works path s
  rw [Spawns, hevents, List.drop_left, hspawn, IsStale, IsBlocked]
  simp only [outdated_eq_true_iff]
  cases m.scanner? <;> simp

end Module

/-! ## Runs of the build -/

/-- A run comes to a module at a place, and finds a state of the build. -/
structure Visit where
  place : Nat
  module : Module
  state : State

/-- The modules that a run comes to: those at the places `order`, up to the first failure. -/
def visits (works : Bool) (outputs : List String) (modules : List Module) (s : State) : List Nat → List Visit
  | [] => []
  | i :: rest =>
    match modules[i]? with
    | none => visits works outputs modules s rest
    | some m => ⟨i, m, s⟩ ::
      match m.buildCustom works (buildPath m.name outputs) s with
      | (_, _, some _) => []
      | (m, s, none) => visits works outputs (modules.set i m) s rest

theorem visits_singleton (works : Bool) (outputs : List String) {modules : List Module} {i : Nat} {m : Module}
    (hm : modules[i]? = some m) (s : State) : visits works outputs modules s [i] = [⟨i, m, s⟩] := by
  simp only [visits, hm]
  rcases m.buildCustom works (buildPath m.name outputs) s with ⟨m', s', _ | e⟩ <;> rfl

/-- The number of visits to a place. -/
def visitsTo (i : Nat) (vs : List Visit) : Nat := vs.countP (·.place = i)

theorem visitsTo_cons (i : Nat) (v : Visit) (vs : List Visit) :
    visitsTo i (v :: vs) = (if v.place = i then 1 else 0) + visitsTo i vs := by
  rw [visitsTo, List.countP_cons, Nat.add_comm]
  simp only [decide_eq_true_eq, visitsTo]

theorem getElem?_set_grown {modules : List Module} {j : Nat} {m : Module} (hm : modules[j]? = some m) (i : Nat) :
    (modules.set j (m.grown 1))[i]? = modules[i]?.map (·.grown (if j = i then 1 else 0)) := by
  by_cases hji : j = i
  · subst hji
    have hlt := (List.getElem?_eq_some_iff.mp hm).1
    rw [List.getElem?_set_self hlt, hm, if_pos rfl, Option.map_some]
  · rw [List.getElem?_set_ne hji, if_neg hji]
    simp [Module.grown_zero]

/-- **Each visit of a run grows its module by one.** -/
theorem getElem?_runModules (works : Bool) (outputs : List String) (modules : List Module) (s : State)
    (order : List Nat) (i : Nat) : (runModules works outputs modules s order).1[i]? =
      modules[i]?.map (·.grown (visitsTo i (visits works outputs modules s order))) := by
  induction order generalizing modules s with
  | nil => simp [runModules, visits, visitsTo, Module.grown_zero]
  | cons j rest ih =>
    rw [runModules, visits]
    cases hm : modules[j]? with
    | none => exact ih modules s
    | some m =>
      have hset := getElem?_set_grown hm i
      obtain ⟨hgrown, -⟩ := m.buildCustom_spec works (buildPath m.name outputs) s
      rcases hbuild : m.buildCustom works (buildPath m.name outputs) s with ⟨m', s', _ | e⟩
      -- the module has grown whether the run goes on or stops here
      all_goals
        rw [hbuild] at hgrown
        obtain rfl : m' = m.grown 1 := hgrown
        simp only [hbuild, visitsTo_cons]
      · rw [ih, hset, Option.map_map]
        simp only [Function.comp_def, Module.grown_grown]
      · exact hset

/-! ## Many runs -/

/-- The modules of a build and its disk. -/
abbrev Site := List Module × Disk

/-- One run of the build, and what becomes of the disk before it. -/
structure Round where
  change : Disk → Disk
  generatorWorks : Bool
  outputs : List String
  order : List Nat

namespace Round

variable (r : Round) (site : Site)

/-- What comes of a run. -/
def run : List Module × State × Option Failure :=
  Build.run r.generatorWorks r.outputs (r.change site.2) site.1 r.order

/-- The modules that a run comes to. -/
def visits : List Visit :=
  Build.visits r.generatorWorks r.outputs site.1 { disk := r.change site.2 } r.order

/-- What a run leaves. -/
def after : Site := ((r.run site).1, (r.run site).2.1.disk)

/-- The generator is started on a visit. -/
def Spawns (v : Visit) : Prop := v.module.Spawns r.generatorWorks (buildPath v.module.name r.outputs) v.state

theorem getElem?_after (i : Nat) :
    (r.after site).1[i]? = site.1[i]?.map (·.grown (visitsTo i (r.visits site))) := by
  rw [visits, ← getElem?_runModules]
  show (Build.run _ _ _ _ _).1[i]? = _
  rw [Build.run]
  split
  · next h => rw [h]
  · rfl

end Round

/-- What runs leave, one after the other. -/
def afterRounds (rounds : List Round) (site : Site) : Site := rounds.foldl (fun site r => r.after site) site

/-- The number of visits to a place in runs one after the other. -/
def visitsInRounds (i : Nat) : List Round → Site → Nat
  | [], _ => 0
  | r :: rest, site => visitsTo i (r.visits site) + visitsInRounds i rest (r.after site)

theorem afterRounds_concat (rounds : List Round) (r : Round) (site : Site) :
    afterRounds (rounds ++ [r]) site = r.after (afterRounds rounds site) := by
  rw [afterRounds, List.foldl_append]
  rfl

theorem visitsInRounds_concat (i : Nat) (rounds : List Round) (r : Round) (site : Site) :
    visitsInRounds i (rounds ++ [r]) site =
      visitsInRounds i rounds site + visitsTo i (r.visits (afterRounds rounds site)) := by
  induction rounds generalizing site with
  | nil => exact Nat.add_comm _ _
  | cons first rest ih =>
    show visitsTo i (first.visits site) + visitsInRounds i (rest ++ [r]) (first.after site) = _
    rw [ih, ← Nat.add_assoc]
    rfl

/-- **A module grows by one with each visit, over all runs.** -/
theorem getElem?_afterRounds (rounds : List Round) (site : Site) (i : Nat) :
    (afterRounds rounds site).1[i]? = site.1[i]?.map (·.grown (visitsInRounds i rounds site)) := by
  induction rounds generalizing site with
  | nil => simp [afterRounds, visitsInRounds, Module.grown_zero]
  | cons r rest ih =>
    show (afterRounds rest (r.after site)).1[i]? = _
    rw [ih, r.getElem?_after, Option.map_map, visitsInRounds]
    simp only [Function.comp_def, Module.grown_grown]

/-! ## Stable sources -/

/-- The sources of the module at a place. -/
def sourcesAt (i : Nat) (site : Site) : List String := (site.1[i]?.map Module.sources).getD []

/-- Whether a failure is one of the generator. -/
def Failure.isOfGenerator : Failure → Bool
  | generator => true
  | noSource .. => false
  | noTarget .. => true

/-- A run leaves the sources of the module at a place stable, where `m` is the module as it was at first. -/
structure KeepsSources (m : Module) (i : Nat) (site : Site) (r : Round) : Prop where
  /-- No source is listed more often than at first, the generated scanner apart. -/
  others : ∀ path, m.scanner? ≠ some path → (sourcesAt i (r.after site)).count path ≤ m.sources.count path
  /-- After a run that succeeds the scanner is listed once. -/
  once : (r.run site).2.2 = none → ∀ target, m.scanner? = some target →
    (sourcesAt i (r.after site)).count target = 1
  /-- A run in which the generator fails changes nothing. -/
  unchanged : ∀ e, (r.run site).2.2 = some e → e.isOfGenerator = true →
    sourcesAt i (r.after site) = sourcesAt i site
  /-- The generator is started exactly if the scanner is missing or older than one of its sources. -/
  spawned : ∀ v ∈ r.visits site, v.place = i → (r.Spawns v ↔ v.module.IsStale v.state.disk)

section Stable

variable {site : Site} {i : Nat} {m : Module}

theorem sourcesAt_afterRounds (hm : site.1[i]? = some m) (rounds : List Round) :
    sourcesAt i (afterRounds rounds site) = (m.grown (visitsInRounds i rounds site)).sources := by
  rw [sourcesAt, getElem?_afterRounds, hm]
  rfl

/-- Starting the generator when it is due fails only where a newer source stands behind a missing one. -/
theorem spawns_iff_isStale_iff (r : Round) (v : Visit) :
    (r.Spawns v ↔ v.module.IsStale v.state.disk) ↔
      ¬ (v.module.IsStale v.state.disk ∧ v.module.IsBlocked v.state.disk) := by
  rw [Round.Spawns, Module.spawns_iff]
  tauto

/-- **Which runs leave the sources of a module stable.** After any runs a module has the sources that it had at first,
and its scanner once more for each visit. So a run leaves them stable exactly if, in case it succeeds, the scanner was
visited once in all, or listed once from the start and never visited; in case the generator fails, the module was not
visited in this run; and no visit finds a newer source behind a missing one. -/
theorem keepsSources_iff (hm : site.1[i]? = some m) (rounds : List Round) (r : Round) :
    (afterRounds rounds site).1[i]? = some (m.grown (visitsInRounds i rounds site)) ∧
    (KeepsSources m i (afterRounds rounds site) r ↔
      ((r.run (afterRounds rounds site)).2.2 = none → ∀ target, m.scanner? = some target →
        m.sources.count target + visitsInRounds i (rounds ++ [r]) site = 1) ∧
      (∀ e, (r.run (afterRounds rounds site)).2.2 = some e → e.isOfGenerator = true →
        m.scanner? = none ∨ visitsTo i (r.visits (afterRounds rounds site)) = 0) ∧
      ∀ v ∈ r.visits (afterRounds rounds site), v.place = i →
        ¬ (v.module.IsStale v.state.disk ∧ v.module.IsBlocked v.state.disk)) := by
  have hbefore := sourcesAt_afterRounds hm rounds
  have hafter := sourcesAt_afterRounds hm (rounds ++ [r])
  rw [afterRounds_concat] at hafter
  have honce : ∀ target, m.scanner? = some target →
      (sourcesAt i (r.after (afterRounds rounds site))).count target =
        m.sources.count target + visitsInRounds i (rounds ++ [r]) site := by
    intro target htarget
    rw [hafter, m.count_grown htarget, if_pos rfl]
  have hunchanged : sourcesAt i (r.after (afterRounds rounds site)) = sourcesAt i (afterRounds rounds site) ↔
      m.scanner? = none ∨ visitsTo i (r.visits (afterRounds rounds site)) = 0 := by
    rw [hafter, hbefore, visitsInRounds_concat, ← Module.grown_grown]
    exact (m.grown (visitsInRounds i rounds site)).sources_grown_eq_iff _
  refine ⟨by rw [getElem?_afterRounds, hm, Option.map_some], ?_, ?_⟩
  · intro hkeeps
    refine ⟨?_, ?_, ?_⟩
    · intro hok target htarget
      rw [← honce target htarget]
      exact hkeeps.once hok target htarget
    · intro e he hgenerator
      exact hunchanged.mp (hkeeps.unchanged e he hgenerator)
    · intro v hv hi
      exact (spawns_iff_isStale_iff r v).mp (hkeeps.spawned v hv hi)
  · rintro ⟨hsuccess, hfailure, hblocked⟩
    refine ⟨?_, ?_, ?_, ?_⟩
    · intro path hpath
      rw [hafter]
      exact Nat.le_of_eq (m.count_grown_of_ne hpath _)
    · intro hok target htarget
      rw [honce target htarget]
      exact hsuccess hok target htarget
    · intro e he hgenerator
      exact hunchanged.mpr (hfailure e he hgenerator)
    · intro v hv hi
      exact (spawns_iff_isStale_iff r v).mpr (hblocked v hv hi)

end Stable

/-- The module with the comment scanner, before it was ever built. -/
def freshSite : Site :=
  ([scannerModule], ⟨{ files := [("/hotdoc_c_extension/c_comment_scanner/scanner.l", [])] }, []⟩)

/-- A run that comes to the first module. -/
def plainRound : Round := ⟨id, true, [], [0]⟩

/-- The scanner of the module is missing at first. It can be made, and the second run finds it up to date. -/
theorem freshSite_runs :
    (scannerModule.scanner? = some "/hotdoc_c_extension/c_comment_scanner/scanner.c" ∧
      (freshSite.2.time "/hotdoc_c_extension/c_comment_scanner/scanner.c").toOption = none ∧
      (plainRound.run freshSite).2.2 = none) ∧
    (plainRound.run (plainRound.after freshSite)).2.2 = none ∧
    sourcesAt 0 (plainRound.after (plainRound.after freshSite)) =
      ["hotdoc_c_extension/c_comment_scanner/scannermodule.c", "/hotdoc_c_extension/c_comment_scanner/scanner.c",
        "/hotdoc_c_extension/c_comment_scanner/scanner.c"] := by
  decide +kernel

/-- The first run leaves the sources stable. -/
theorem keepsSources_freshSite : KeepsSources scannerModule 0 freshSite plainRound := by
  obtain ⟨⟨htarget, hmissing, hok⟩, -⟩ := freshSite_runs
  have hm : freshSite.1[0]? = some scannerModule := rfl
  have hvisits : plainRound.visits freshSite = [⟨0, scannerModule, { disk := freshSite.2 }⟩] :=
    visits_singleton true [] hm { disk := freshSite.2 }
  refine (keepsSources_iff hm [] plainRound).2.mpr ⟨?_, ?_, ?_⟩
  · rintro - target h
    obtain rfl := Option.some.inj (htarget.symm.trans h)
    show _ + (visitsTo 0 (plainRound.visits freshSite) + 0) = 1
    rw [hvisits]
    decide
  · intro e he
    nomatch hok.symm.trans he
  · rintro v hv - ⟨-, target, h, t, ht, -⟩
    obtain rfl : v = _ := List.mem_singleton.mp (hvisits ▸ hv)
    obtain rfl := Option.some.inj (htarget.symm.trans h)
    nomatch hmissing.symm.trans (congrArg Except.toOption ht)

/-- The second run lists the scanner again, although it has nothing to generate. -/
theorem not_keepsSources_after_freshSite :
    ¬ KeepsSources scannerModule 0 (plainRound.after freshSite) plainRound := by
  intro hkeeps
  obtain ⟨⟨htarget, -⟩, hok, hsources⟩ := freshSite_runs
  have hone := hkeeps.once hok _ htarget
  rw [hsources] at hone
  revert hone
  decide

end GirDoc.Build
