import Mathlib.Logic.Relation
import GirDoc.Proofs.Gir.Elements
import GirDoc.Proofs.Remaining

/-!
# The files that a reading goes through

From the sources a reading follows includes from file to file. Where all files that includes lead to are
well-formed and there are finitely many of them, it comes to an end, whatever cycles the includes make. It
has then read the sources, each as often as it is listed, and every file that an include leads to once more.

* Each file that is opened by an include was not opened before, so the files of the collection that are
  left get fewer on every level of the recursion (`run_followInclude`).
* `Visited` says what a part of a reading did. After it, every file that is included by one of the files
  read in it is opened. It is kept by going on (`Visited.trans`), so it holds of the whole reading, and the
  files read are closed under includes.
-/

namespace GirDoc.Gir

open Xml

/-! ## Running -/

namespace Follow

variable {α β : Type}

theorem run_bind_ok {m : Follow α} {f : α → Follow β} {r t : Reading} {a : α}
    (h : m.run r = some (.ok a, t)) : (m >>= f).run r = (f a).run t := by
  show (m.run r).bind (fun p => ExceptT.bindCont f p.1 p.2) = _
  rw [h]
  rfl

theorem run_ofRead_bind_ok {m : Read α} {f : α → Follow β} {r t : Reading} {a : α}
    (h : m.start r = (.ok a, t)) : (ofRead m >>= f).run r = (f a).run t :=
  run_bind_ok (congrArg some h)

theorem run_forM_cons_ok {f : α → Follow PUnit} {a : α} {rest : List α} {r t : Reading}
    (h : (f a).run r = some (.ok ⟨⟩, t)) : ((a :: rest).forM f).run r = (rest.forM f).run t :=
  run_bind_ok h

end Follow

/-! ## Includes -/

/-- An include names a file, and it is found. -/
def NamesFile (l : Sources) (e : Element) (q : String) : Prop :=
  ∃ name version, e.attribute? "name" = some name ∧ e.attribute? "version" = some version ∧
    l.find? (includedName name version) = some q

/-- The file `p` includes the file `q`. -/
def Includes (l : Sources) (p q : String) : Prop :=
  ∃ root, readDocument l.files p = .ok root ∧ ∃ e ∈ root.childrenOf (core "include"), NamesFile l e q

/-- Includes lead from a source to a file. -/
def Reachable (l : Sources) (p : String) : Prop :=
  ∃ s ∈ l.listed, Relation.ReflTransGen (Includes l) s p

/-- A collection of well-formed files that has the sources and all that its files include. -/
structure Collection (l : Sources) (girs : List String) : Prop where
  listed : l.listed ⊆ girs
  wellFormed : ∀ p ∈ girs, ∃ root, readDocument l.files p = .ok root ∧ WellFormed root
  closed : ∀ p ∈ girs, ∀ q, Includes l p q → q ∈ girs

variable {l : Sources} {girs : List String}

/-- Opening an include: the file is not found, it was opened before, or it is opened now. -/
theorem start_openInclude {e : Element} (hname : (e.attribute? "name").isSome)
    (hversion : (e.attribute? "version").isSome) (r : Reading) :
    ((∀ q, ¬ NamesFile l e q) ∧ ∃ missing,
      (openInclude l e).start r = (.ok none, { r with missing })) ∨
    ∃ q, NamesFile l e q ∧ (∀ q', NamesFile l e q' → q' = q) ∧
      (q ∈ r.index.parsed ∧ (openInclude l e).start r = (.ok none, r) ∨
        q ∉ r.index.parsed ∧ ∀ root, readDocument l.files q = .ok root →
          (openInclude l e).start r = (.ok (some root),
            { r with index := { r.index with parsed := r.index.parsed ++ [q] } })) := by
  obtain ⟨name, hname⟩ := Option.isSome_iff_exists.mp hname
  obtain ⟨version, hversion⟩ := Option.isSome_iff_exists.mp hversion
  have hfind {q : String} (hq : NamesFile l e q) : l.find? (includedName name version) = some q := by
    obtain ⟨name', version', hname', hversion', hq⟩ := hq
    rw [hname] at hname'
    rw [hversion] at hversion'
    cases hname'
    cases hversion'
    exact hq
  simp only [openInclude, hname, hversion, Attempt.need, pure_bind]
  cases hq : l.find? (includedName name version) with
  | none => exact Or.inl ⟨fun q hn => by simp [hfind hn] at hq, _, rfl⟩
  | some q =>
    refine Or.inr ⟨q, ⟨name, version, hname, hversion, hq⟩, fun q' hn => ?_, ?_⟩
    · exact Option.some.inj ((hfind hn).symm.trans hq)
    · simp only [Attempt.start_bind_ok (Attempt.start_get r)]
      by_cases hmem : q ∈ r.index.parsed
      · exact Or.inl ⟨hmem, by rw [if_pos hmem]; rfl⟩
      · refine Or.inr ⟨hmem, fun root hroot => ?_⟩
        rw [if_neg hmem, hroot]
        rfl

/-! ## Files one after the other -/

/-- Reads the elements of files and follows no include. -/
def readAll (l : Sources) (files : List String) : Read Unit :=
  files.forM fun p => do
    readElements ⟨← Attempt.ofExcept (readDocument l.files p), []⟩

/-- The entries that a document makes in the classes, if it could be read. -/
def documentEntries : Except Fault Element → List (String × Node)
  | .ok root => fileEntries root
  | .error _ => []

theorem mem_documentEntries {document : Except Fault Element} {e : String × Node} :
    e ∈ documentEntries document ↔ ∃ root, document = .ok root ∧ e ∈ fileEntries root := by
  cases document <;> simp [documentEntries]

theorem Collection.notes_readAll (h : Collection l girs) {files : List String} (hfiles : files ⊆ girs) :
    Notes (readAll l files) (files.flatMap fun p => documentEntries (readDocument l.files p)) := by
  refine Notes.forM fun p hp => ?_
  obtain ⟨root, hroot, hwell⟩ := h.wellFormed p (hfiles hp)
  rw [hroot]
  exact hwell.notes

theorem Collection.effect_append (h : Collection l girs) {files files' : List String}
    (hfiles : files ⊆ girs) (x : Index) :
    effect (readAll l (files ++ files')) x = effect (readAll l files') (effect (readAll l files) x) := by
  rw [← (h.notes_readAll hfiles).effect_seq]
  exact congrArg (fun m => effect m x) List.forM_append

theorem readAll_singleton {p : String} {root : Element} (hroot : readDocument l.files p = .ok root) :
    readAll l [p] = readElements ⟨root, []⟩ := by
  show ((Attempt.ofExcept (readDocument l.files p) >>= fun e => readElements ⟨e, []⟩ : Read Unit)
    >>= fun _ => pure PUnit.unit) = _
  rw [hroot, bind_pure_unit]
  rfl

/-! ## What a part of a reading does -/

/-- From `r` on the files `files` were read and `opened` were opened by includes. -/
structure Visited (l : Sources) (girs : List String) (r : Reading) (files opened : List String)
    (r' : Reading) : Prop where
  files_subset : files ⊆ girs
  index : r'.index = { effect (readAll l files) r.index with parsed := r.index.parsed ++ opened }
  nodup : opened.Nodup
  fresh : ∀ q ∈ opened, q ∉ r.index.parsed

variable {r r' r'' : Reading} {files files' opened opened' : List String}

theorem Visited.parsed (h : Visited l girs r files opened r') :
    r'.index.parsed = r.index.parsed ++ opened := by
  rw [h.index]

/-- Noting files that were not found. -/
theorem Visited.misses (l : Sources) (girs : List String) (r : Reading) (missing : List String) :
    Visited l girs r [] [] { r with missing } where
  files_subset := List.nil_subset _
  index := by rw [List.append_nil]; rfl
  nodup := List.nodup_nil
  fresh := by simp

/-- Opening a file. -/
theorem Visited.opens (l : Sources) (girs : List String) {q : String} (hq : q ∉ r.index.parsed) :
    Visited l girs r [] [q]
      { r with index := { r.index with parsed := r.index.parsed ++ [q] } } where
  files_subset := List.nil_subset _
  index := rfl
  nodup := List.nodup_singleton q
  fresh _ hmem := List.mem_singleton.mp hmem ▸ hq

/-- Reading the elements of a file. -/
theorem Visited.reads {p : String} {root : Element} (hp : p ∈ girs)
    (hroot : readDocument l.files p = .ok root) (hwell : WellFormed root) (r : Reading) :
    Visited l girs r [p] [] { r with index := effect (readElements ⟨root, []⟩) r.index } where
  files_subset := List.cons_subset.mpr ⟨hp, List.nil_subset _⟩
  index := by
    rw [readAll_singleton hroot, List.append_nil]
    exact hwell.notes.frame r.index r.index.parsed
  nodup := List.nodup_nil
  fresh := by simp

theorem Visited.trans (hgirs : Collection l girs) (h : Visited l girs r files opened r')
    (h' : Visited l girs r' files' opened' r'') :
    Visited l girs r (files ++ files') (opened ++ opened') r'' where
  files_subset := List.append_subset.mpr ⟨h.files_subset, h'.files_subset⟩
  index := by
    have hframe := (hgirs.notes_readAll h'.files_subset).frame
    rw [h'.index, h.parsed, h.index, hframe, hgirs.effect_append h.files_subset, List.append_assoc]
  nodup := by
    refine List.nodup_append.mpr ⟨h.nodup, h'.nodup, ?_⟩
    rintro q hq _ hq' rfl
    exact h'.fresh q hq' (by rw [h.parsed]; exact List.mem_append_right _ hq)
  fresh q hq := by
    rcases List.mem_append.mp hq with hq | hq
    · exact h.fresh q hq
    · exact fun hmem => h'.fresh q hq (by rw [h.parsed]; exact List.mem_append_left _ hmem)

/-- What was open stays so. -/
theorem Visited.mem_parsed (h : Visited l girs r files opened r') {q : String}
    (hq : q ∈ r.index.parsed) : q ∈ r'.index.parsed := by
  rw [h.parsed]
  exact List.mem_append_left _ hq

/-- All that the files include was opened. -/
def Closed (l : Sources) (files : List String) (r : Reading) : Prop :=
  ∀ p ∈ files, ∀ q, Includes l p q → q ∈ r.index.parsed

theorem Closed.append (h : Closed l files r) (h' : Closed l files' r')
    (hvisited : Visited l girs r files' opened r') : Closed l (files ++ files') r' := by
  intro p hp q hq
  rcases List.mem_append.mp hp with hp | hp
  · exact hvisited.mem_parsed (h p hp q hq)
  · exact h' p hp q hq

/-! ## The recursion -/

/-- Goes on with the file that an include names. -/
def followInclude (l : Sources) (e : Element) : Follow Unit := do
  match ← Follow.ofRead (openInclude l e) with
  | none => return
  | some inner => l.readFile inner

theorem readFile_eq (l : Sources) (root : Element) :
    l.readFile root = (do
      Follow.ofRead (readElements ⟨root, []⟩)
      (root.childrenOf (core "include")).forM (followInclude l)) := by
  rw [Sources.readFile]
  rfl

/-- With at most `n` files left to open, a file and all that it leads to can be read. -/
def CanRead (l : Sources) (girs : List String) (n : Nat) : Prop :=
  ∀ p ∈ girs, ∀ root, readDocument l.files p = .ok root → ∀ r, remaining girs r.index.parsed ≤ n →
    ∃ opened r', (l.readFile root).run r = some (.ok (), r') ∧
      Visited l girs r (p :: opened) opened r' ∧ Closed l (p :: opened) r' ∧
      ∀ q ∈ opened, Relation.TransGen (Includes l) p q

/-- **One include.** -/
theorem run_followInclude (hgirs : Collection l girs) {n : Nat} (ih : ∀ k < n, CanRead l girs k)
    {p : String} {e : Element} (hp : p ∈ girs) (he : ∀ q, NamesFile l e q → Includes l p q)
    (hname : (e.attribute? "name").isSome) (hversion : (e.attribute? "version").isSome)
    (hleft : remaining girs r.index.parsed ≤ n) :
    ∃ opened r', (followInclude l e).run r = some (.ok (), r') ∧ Visited l girs r opened opened r' ∧
      Closed l opened r' ∧ (∀ q, NamesFile l e q → q ∈ r'.index.parsed) ∧
      ∀ q ∈ opened, Relation.TransGen (Includes l) p q := by
  have hnil (r' : Reading) : Closed l [] r' := fun _ h => by cases h
  rcases start_openInclude hname hversion r with
    ⟨hnone, missing, hrun⟩ | ⟨q, hq, hunique, ⟨hmem, hrun⟩ | ⟨hfresh, hrun⟩⟩
  · refine ⟨[], _, ?_, .misses l girs r missing, hnil _, fun q hq => absurd hq (hnone q), by simp⟩
    rw [followInclude, Follow.run_ofRead_bind_ok hrun]
    rfl
  · refine ⟨[], r, ?_, .misses l girs r r.missing, hnil r, fun q' hq' => hunique q' hq' ▸ hmem, by simp⟩
    rw [followInclude, Follow.run_ofRead_bind_ok hrun]
    rfl
  · have hinclude : Includes l p q := he q hq
    have hqgirs : q ∈ girs := hgirs.closed p hp q hinclude
    obtain ⟨root, hroot, -⟩ := hgirs.wellFormed q hqgirs
    have hopens : Visited l girs r [] [q] _ := .opens l girs hfresh
    -- opening the file leaves fewer files, so that it can be read
    have hless : remaining girs (r.index.parsed ++ [q]) < remaining girs r.index.parsed :=
      remaining_lt (List.subset_append_left _ _) hqgirs (by simp) hfresh
    obtain ⟨opened, r', hread, hvisited, hclosed, hreach⟩ :=
      ih _ (hless.trans_le hleft) q hqgirs root hroot
        { r with index := { r.index with parsed := r.index.parsed ++ [q] } } le_rfl
    refine ⟨q :: opened, r', ?_, hopens.trans hgirs hvisited, hclosed, fun q' hq' => ?_, fun q' hq' => ?_⟩
    · rw [followInclude, Follow.run_ofRead_bind_ok (hrun root hroot)]
      exact hread
    · rw [hunique q' hq']
      exact hvisited.mem_parsed (List.mem_append_right _ List.mem_cons_self)
    · rcases List.mem_cons.mp hq' with rfl | hq'
      · exact .single hinclude
      · exact (hreach q' hq').head hinclude

/-- The includes of a file, one after the other. -/
theorem run_includes (hgirs : Collection l girs) {n : Nat} (ih : ∀ k < n, CanRead l girs k) {p : String}
    (hp : p ∈ girs) : ∀ (es : List Element) (r : Reading), remaining girs r.index.parsed ≤ n →
    (∀ e ∈ es, (∀ q, NamesFile l e q → Includes l p q) ∧
      (e.attribute? "name").isSome ∧ (e.attribute? "version").isSome) →
    ∃ opened r', (es.forM (followInclude l)).run r = some (.ok (), r') ∧
      Visited l girs r opened opened r' ∧ Closed l opened r' ∧
      (∀ e ∈ es, ∀ q, NamesFile l e q → q ∈ r'.index.parsed) ∧
      ∀ q ∈ opened, Relation.TransGen (Includes l) p q
  | [], r, _, _ => ⟨[], r, rfl, .misses l girs r r.missing, fun _ h => (by cases h), by simp, by simp⟩
  | e :: rest, r, hleft, hes => by
    obtain ⟨he, hname, hversion⟩ := hes e List.mem_cons_self
    obtain ⟨opened, r₁, hrun, hvisited, hclosed, hnamed, hreach⟩ :=
      run_followInclude hgirs ih hp he hname hversion hleft
    have hleft₁ : remaining girs r₁.index.parsed ≤ n := by
      rw [hvisited.parsed]
      exact (remaining_le (List.subset_append_left _ opened)).trans hleft
    obtain ⟨opened', r', hrun', hvisited', hclosed', hnamed', hreach'⟩ :=
      run_includes hgirs ih hp rest r₁ hleft₁ fun e he => hes e (List.mem_cons_of_mem _ he)
    refine ⟨opened ++ opened', r', ?_, hvisited.trans hgirs hvisited', hclosed.append hclosed' hvisited',
      fun e' he' q hq => ?_, fun q hq => ?_⟩
    · rw [Follow.run_forM_cons_ok hrun, hrun']
    · rcases List.mem_cons.mp he' with rfl | he'
      · exact hvisited'.mem_parsed (hnamed q hq)
      · exact hnamed' e' he' q hq
    · exact (List.mem_append.mp hq).elim (hreach q) (hreach' q)

/-- **Every file of the collection can be read, with all that it leads to.** The induction is on the
number of files that were not opened yet. -/
theorem Collection.canRead (hgirs : Collection l girs) (n : Nat) : CanRead l girs n := by
  induction n using Nat.strong_induction_on with
  | _ n ih =>
    intro p hp root hroot r hleft
    have hwell : WellFormed root := by
      obtain ⟨root', hroot', hwell⟩ := hgirs.wellFormed p hp
      cases hroot.symm.trans hroot'
      exact hwell
    have hreads := Visited.reads hp hroot hwell r
    obtain ⟨opened, r', hrun, hvisited, hclosed, hnamed, hreach⟩ :=
      run_includes hgirs ih hp (root.childrenOf (core "include")) _
        (by rw [hreads.parsed, List.append_nil]; exact hleft)
        fun e he => ⟨fun q hq => ⟨root, hroot, e, he, hq⟩, hwell.includeNamed e he⟩
    refine ⟨opened, r', ?_, hreads.trans hgirs hvisited, fun p' hp' q hq => ?_, hreach⟩
    · rw [readFile_eq, Follow.run_ofRead_bind_ok (hwell.notes.run r)]
      exact hrun
    · rcases List.mem_cons.mp hp' with rfl | hp'
      · obtain ⟨root', hroot', e, he, hq⟩ := hq
        cases hroot.symm.trans hroot'
        exact hnamed e he q hq
      · exact hclosed p' hp' q hq

/-! ## The sources -/

/-- The sources, one after the other. -/
theorem run_sources (hgirs : Collection l girs) : ∀ (sources : List String) (r : Reading),
    sources ⊆ girs →
    ∃ files opened r', (sources.forM fun s => do
        l.readFile (← Follow.ofRead (Attempt.ofExcept (readDocument l.files s)))).run r
          = some (.ok (), r') ∧
      Visited l girs r files opened r' ∧ Closed l files r' ∧ files.Perm (sources ++ opened) ∧
      ∀ q ∈ opened, ∃ s ∈ sources, Relation.TransGen (Includes l) s q
  | [], r, _ => ⟨[], [], r, rfl, .misses l girs r r.missing, fun _ h => (by cases h), .nil, by simp⟩
  | s :: rest, r, hsources => by
    rw [List.cons_subset] at hsources
    obtain ⟨root, hroot, -⟩ := hgirs.wellFormed s hsources.1
    obtain ⟨opened, r₁, hrun, hvisited, hclosed, hreach⟩ :=
      hgirs.canRead _ s hsources.1 root hroot r le_rfl
    obtain ⟨files', opened', r', hrun', hvisited', hclosed', hperm, hreach'⟩ :=
      run_sources hgirs rest r₁ hsources.2
    refine ⟨s :: opened ++ files', opened ++ opened', r', ?_, hvisited.trans hgirs hvisited',
      hclosed.append hclosed' hvisited', ?_, fun q hq => ?_⟩
    · rw [Follow.run_forM_cons_ok, hrun']
      rw [hroot]
      exact hrun
    · refine (hperm.append_left (s :: opened)).trans ?_
      simp only [List.cons_append, List.perm_cons, ← List.append_assoc]
      exact List.perm_append_comm.append_right opened'
    · rcases List.mem_append.mp hq with hq | hq
      · exact ⟨s, List.mem_cons_self, hreach q hq⟩
      · obtain ⟨s', hs', hq⟩ := hreach' q hq
        exact ⟨s', List.mem_cons_of_mem _ hs', hq⟩

theorem Reachable.mem (hlisted : l.listed ⊆ files) (hclosed : Closed l files r)
    (hopened : r.index.parsed ⊆ files) {p : String} (hp : Reachable l p) : p ∈ files := by
  obtain ⟨s, hs, hsp⟩ := hp
  induction hsp with
  | refl => exact hlisted hs
  | tail _ hstep ih => exact hopened (hclosed _ ih _ hstep)

/-- The files that the includes of a document name. -/
def targets (l : Sources) (root : Element) : List String :=
  (root.childrenOf (core "include")).filterMap fun e => do
    l.find? (includedName (← e.attribute? "name") (← e.attribute? "version"))

theorem mem_targets {root : Element} {q : String} :
    q ∈ targets l root ↔ ∃ e ∈ root.childrenOf (core "include"), NamesFile l e q := by
  simp [targets, NamesFile, List.mem_filterMap, Option.bind_eq_some_iff]

/-- Whether a well-formed file includes itself alone and has a class of a key directly in its namespace. -/
def includesItself (l : Sources) (p key : String) : Bool :=
  match readDocument l.files p with
  | .ok root => WellFormed root ∧ targets l root = [p] ∧
      ∃ e ∈ fileEntries root, e.1 = key ∧ IsTopLevel e.2
  | .error _ => false

theorem collection_of_includesItself {p key : String} (hlisted : l.listed = [p])
    (h : includesItself l p key = true) :
    Collection l [p] ∧ Includes l p p ∧
      ∃ root n, readDocument l.files p = .ok root ∧ InNamespace root key n := by
  unfold includesItself at h
  split at h
  · next root hroot =>
    obtain ⟨hwell, htargets, ⟨_, n⟩, hentry, rfl, htop⟩ := of_decide_eq_true h
    have hincludes (q : String) : Includes l p q ↔ q = p := by
      rw [← List.mem_singleton, ← htargets, mem_targets]
      constructor
      · rintro ⟨root', hroot', hq⟩
        cases hroot.symm.trans hroot'
        exact hq
      · exact fun hq => ⟨root, hroot, hq⟩
    refine ⟨⟨hlisted ▸ List.Subset.refl _, fun p' hp' => ?_, fun p' hp' q hq => ?_⟩,
      (hincludes p).mpr rfl, root, n, hroot, hwell.inNamespace_iff.mpr ⟨hentry, htop⟩⟩
    · rw [List.mem_singleton.mp hp']
      exact ⟨root, hroot, hwell⟩
    · rw [List.mem_singleton.mp hp', hincludes] at hq
      exact List.mem_singleton.mpr hq
  · cases h

/-- A file that includes itself. -/
def selfIncluding : Sources where
  files := { files := [("/A-1.gir", Text.Utf8.encode <|
    "<repository xmlns='http://www.gtk.org/introspection/core/1.0' " ++
      "xmlns:c='http://www.gtk.org/introspection/c/1.0'><include name='A' version='1'/>" ++
    "<namespace name='A' c:identifier-prefixes='A' c:symbol-prefixes='a'>" ++
    "<class name='B' c:type='AB' c:symbol-prefix='b'/></namespace></repository>")] }
  listed := ["/A-1.gir"]
  dataDirs := []

theorem includesItself_selfIncluding : includesItself selfIncluding "/A-1.gir" "A.B" = true := by
  decide +kernel

end GirDoc.Gir
