import GirDoc.Proofs.C.Changes

/-!
# What going through trees leaves as it is

The trees of sources give symbols of declarations, never of macros. So whatever a scan finds in them, and
whether it succeeds there or not, the macros requested so far stay the same, and so does what the session was
given: `keeps_scanTrees`.
-/

namespace GirDoc.C

open Session

/-- A step leaves what `view` sees of a session as it is. -/
def Keeps {α γ : Type} (view : Session → γ) (m : Doc α) : Prop := ∀ s, view (m.start s).2 = view s

/-- The macros requested so far. -/
def macroRequests (s : Session) : List Request := s.requests.filter (isMacroKind ·.kind)

/-- What a session was given, and the macros requested so far. -/
def backdrop (s : Session) : Environment × List Request := (s.environment, macroRequests s)

theorem allowsTrees_backdrop : AllowsTrees fun s t => backdrop t = backdrop s where
  refl _ := rfl
  trans h h' := h'.trans h
  log _ _ := rfl
  quoted _ _ := rfl
  leftOut _ _ := rfl
  add _ _ := rfl
  change _ _ _ _ := rfl
  request s name r hkind _ := by
    rw [backdrop, macroRequests, afterRequest, List.filter_append, List.filter_singleton, hkind]
    exact congrArg (Prod.mk s.environment) (List.append_nil _)
  scanner _ _ := rfl
  library _ _ := rfl

variable (owner : Owner) (plan : Plan)

/-- The first part of a scan: it goes through the trees, and gives the guarded files. -/
def scanTrees : Doc (List String) := do
  loadLibrary
  info ("scanning " ++ toString plan.files.length ++ " C source files")
  let headers ← compilerHeaders
  let arguments := "-Wno-attributes" :: ("-isystem" ++ headers.getD "None") :: plan.options
  modify fun s => { s with scanner := {} }
  debug ("CFLAGS " ++ " ".intercalate arguments)
  plan.files.foldlM (scanTree owner plan arguments) []

/-- A scan goes through trees, then through texts. -/
theorem scan_eq_scanTrees (h : plan.treesOnly = false) : scan owner plan =
    scanTrees owner plan >>= fun guarded => plan.files.forM (scanText owner guarded) := by
  simp only [scan, scanTrees, bind_assoc, h, Bool.not_false, if_true]

theorem leads_scanTrees {R : Session → Session → Prop} (h : AllowsTrees R) :
    Leads R (scanTrees owner plan) := by
  refine h.bind (leads_loadLibrary h) fun _ => h.bind (leads_note h.toAllows _) fun _ => ?_
  refine h.bind (leads_compilerHeaders h) fun _ => h.bind (fun s => h.scanner s {}) fun _ => ?_
  refine h.bind (leads_note h.toAllows _) fun _ => ?_
  exact h.foldlM (fun guarded file _ => leads_scanTree h owner plan _ guarded file) []

/-- **Going through trees requests no macro**, whether it comes to its end or not. -/
theorem keeps_scanTrees : Keeps backdrop (scanTrees owner plan) :=
  leads_scanTrees owner plan allowsTrees_backdrop

end GirDoc.C
