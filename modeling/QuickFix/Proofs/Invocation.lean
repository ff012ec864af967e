import QuickFix.Proofs.Resolution
import QuickFix.Proofs.Workspace
import QuickFix.Workspace.Invoke

/-!
Invocations never fail. One that finds no edits leaves all documents alone; one that finds some
applies them to open documents, each as one batch, and to no other. Either way the user is told what
the resolution has to say, once.
-/

namespace QuickFix

/-- The documents that the user opens when told of a resolution. -/
def Resolution.requests (resolution : Resolution) (accepts : Bool) : List Path :=
  match resolution with
  | .unresolved (.unresolvedDocument path) => if accepts then [path] else []
  | _ => []

namespace Workspace

/-- Every document of an edit was open and got its own batch, which counts as one version; the other
documents are as they were. -/
def Carries (edit : WorkspaceEdit) (before after : Workspace) : Prop :=
  (∀ file ∈ edit.files, ∃ d, before.document? file.path = some d ∧
    after.document? file.path = some (d.applyEdits file.edits).1 ∧
    (d.applyEdits file.edits).1.version = Document.bump d.version) ∧
  ∀ path : Path, (∀ file ∈ edit.files, file.path.components ≠ path.components) →
    after.document? path = before.document? path

/-- The workspace once the user was told of a resolution. -/
def told (w : Workspace) (resolution : Resolution) : Workspace :=
  { w with
    messages := w.messages ++ resolution.messages
    openRequests := w.openRequests ++ resolution.requests w.acceptsPrompts }

theorem foldl_present_messages (w : Workspace) (resolution : Resolution) :
    resolution.messages.foldl present w = w.told resolution := by
  obtain ⟨documents, active, roots, messages, openRequests, acceptsPrompts⟩ := w
  cases resolution with
  | resolved again =>
      cases again <;>
        simp [Resolution.messages, Resolution.requests, told, present, showMessage,
          UserMessage.information]
  | unresolved error =>
      cases error <;> cases acceptsPrompts <;>
        simp [Resolution.messages, Resolution.requests, told, present, showMessage, requestOpen,
          UserMessage.error]

/-- A message is presented by operations. -/
theorem present_eq_foldl_perform (w : Workspace) (message : UserMessage) :
    ∃ more : List Operation, w.present message = more.foldl perform w := by
  by_cases haccepts : w.acceptsPrompts = true
  · cases hopens : message.opens with
    | none => exact ⟨[.showMessage message], by simp [present, showMessage, perform, hopens]⟩
    | some path =>
        exact ⟨[.showMessage message, .requestOpen path], by
          simp [present, showMessage, perform, haccepts, hopens]⟩
  · exact ⟨[.showMessage message], by simp [present, showMessage, perform, haccepts]⟩

theorem foldl_present_eq_foldl_perform (messages : List UserMessage) (w : Workspace) :
    ∃ more : List Operation, messages.foldl present w = more.foldl perform w := by
  induction messages generalizing w with
  | nil => exact ⟨[], rfl⟩
  | cons message rest ih =>
      obtain ⟨first, hfirst⟩ := present_eq_foldl_perform w message
      obtain ⟨more, hmore⟩ := ih (w.present message)
      refine ⟨first ++ more, ?_⟩
      rw [List.foldl_cons, hmore, List.foldl_append, hfirst]

theorem files_eq_nil_of_isEmpty {edit : WorkspaceEdit} (hedit : edit.WellFormed)
    (hempty : edit.isEmpty = true) : edit.files = [] := by
  apply List.eq_nil_iff_forall_not_mem.mpr
  intro file hfile
  have hnil : file.edits = [] := by
    simpa using List.all_eq_true.mp hempty file hfile
  exact (hedit _ file (WorkspaceEdit.getElem?_of_mem_files hedit hfile)).2 hnil

/-- An attached edit of open documents is applied, also where it is empty. -/
theorem applyAttached_of_open {w : Workspace} {edit : WorkspaceEdit} (hedit : edit.WellFormed)
    (hopen : ∀ file ∈ edit.files, w.isOpen file.path = true) :
    w.applyAttached (some edit) =
      .ok { w with documents := edit.files.foldl applyTo w.documents } := by
  by_cases hempty : edit.isEmpty = true
  · simp [applyAttached, hempty, files_eq_nil_of_isEmpty hedit hempty]
  · simp only [applyAttached, hempty, Bool.false_eq_true, ↓reduceIte]
    exact applyEdit_of_open hopen

theorem applyAttached_eq_foldl_perform {w w' : Workspace} {edit : Option WorkspaceEdit}
    (hok : w.applyAttached edit = .ok w') :
    ∃ more : List Operation, w' = more.foldl perform w := by
  unfold applyAttached at hok
  split at hok
  · rename_i edit
    split at hok
    · exact ⟨[], (Except.ok.inj hok).symm⟩
    · exact ⟨[.applyEdit edit], by simp [perform, hok, Except.toOption]⟩
  · exact ⟨[], (Except.ok.inj hok).symm⟩

theorem carries_foldl_applyTo {w after : Workspace} {edit : WorkspaceEdit}
    (hedit : edit.WellFormed) (hopen : ∀ file ∈ edit.files, w.isOpen file.path = true)
    (hafter : after.documents = edit.files.foldl applyTo w.documents) :
    Carries edit w after := by
  constructor
  · intro file hfile
    have hmem := hopen file hfile
    rw [isOpen, Std.TreeMap.contains_eq_isSome_getElem?, Option.isSome_iff_exists] at hmem
    obtain ⟨d, hd⟩ := hmem
    refine ⟨d, hd, ?_, ?_⟩
    · rw [document?, hafter,
        getElem?_foldl_applyTo_of_mem (WorkspaceEdit.files_pairwise_ne hedit) hfile, hd,
        Option.map_some]
    · apply Document.version_applyEdits
      exact (hedit _ file (WorkspaceEdit.getElem?_of_mem_files hedit hfile)).2
  · intro path hne
    rw [document?, hafter, getElem?_foldl_applyTo_of_ne hne, document?]

/-- What a workspace hands out is open at its path. -/
theorem getElem?_of_offers {w : Workspace} (hkeyed : Keyed w.documents) {d : Document}
    (hoffer : w.source.Offers d) : w.documents[d.path.components]? = some d := by
  have hfound : ∃ k : List Component, w.documents[k]? = some d := by
    rcases hoffer with hactive | ⟨path, hpath⟩
    · obtain ⟨path, _, hpath⟩ := Option.bind_eq_some_iff.mp hactive
      exact ⟨path.components, hpath⟩
    · exact ⟨path.components, hpath⟩
  obtain ⟨k, hk⟩ := hfound
  rw [hkeyed k d hk, hk]

/-- The edits that an action resolves to in a workspace are edits of open documents. -/
theorem isOpen_of_resolveEdits {w : Workspace} (hkeyed : Keyed w.documents)
    {action : CandidateAction} {r : ResolvedEdits} (hok : action.resolveEdits w.source = .ok r) :
    ∀ file ∈ r.edit.files, w.isOpen file.path = true := by
  intro file hfile
  have hwell := CandidateAction.resolveEdits_wellFormed hok
  have hchange := WorkspaceEdit.getElem?_of_mem_files hwell hfile
  obtain ⟨d, hoffer, hpath⟩ := CandidateAction.resolveEdits_offered hok hchange
  rw [isOpen, Std.TreeMap.contains_eq_isSome_getElem?, ← hpath, getElem?_of_offers hkeyed hoffer,
    Option.isSome_some]

end Workspace

namespace Engine

/-- A resolution attaches the edits it finds, and else takes away those that were attached. -/
theorem resolve_cases (e : Engine) (action : CandidateAction) (source : DocumentSource) :
    (∃ error, e.resolve action source = (.unresolved error, { action with edit := none })) ∨
      ∃ r, action.resolveEdits source = .ok r ∧
        e.resolve action source =
          (.resolved r.needsReapply, { action with edit := some r.edit }) := by
  unfold resolve
  by_cases hactive : e.isActive action.language = true
  · rw [if_pos hactive]
    cases hedits : action.resolveEdits source with
    | ok r => exact .inr ⟨r, rfl, rfl⟩
    | error error => exact .inl ⟨error, rfl⟩
  · rw [if_neg hactive]
    exact .inl ⟨_, rfl⟩

/-- An invocation that finds no edits only tells the user so. -/
theorem invoke_of_unresolved {e : Engine} {action held : CandidateAction} {w : Workspace}
    {error : ResolveError} (hresolve : e.resolve action w.source = (.unresolved error, held))
    (hheld : held.edit = none) :
    e.invoke action w = .ok ⟨.unresolved error, held, w.told (.unresolved error)⟩ := by
  simp only [invoke, hresolve, hheld, Workspace.foldl_present_messages, Workspace.applyAttached]

/-- An invocation that finds edits applies all of them. -/
theorem invoke_of_resolved {e : Engine} {action held : CandidateAction} {w : Workspace}
    {needsReapply : Bool} {edit : WorkspaceEdit}
    (hresolve : e.resolve action w.source = (.resolved needsReapply, held))
    (hheld : held.edit = some edit) (hedit : edit.WellFormed)
    (hopen : ∀ file ∈ edit.files, w.isOpen file.path = true) :
    e.invoke action w = .ok ⟨.resolved needsReapply, held,
      { w.told (.resolved needsReapply) with
        documents := edit.files.foldl Workspace.applyTo w.documents }⟩ := by
  have happly : (w.told (.resolved needsReapply)).applyAttached (some edit) =
      .ok { w.told (.resolved needsReapply) with
        documents := edit.files.foldl Workspace.applyTo w.documents } :=
    Workspace.applyAttached_of_open hedit hopen
  simp only [invoke, hresolve, hheld, Workspace.foldl_present_messages, happly]

/-- An invocation does nothing to a workspace that operations cannot do. -/
theorem invoke_eq_foldl_perform {e : Engine} {action : CandidateAction} {w : Workspace}
    {inv : Invocation} (hok : e.invoke action w = .ok inv) :
    ∃ more : List Workspace.Operation, inv.workspace = more.foldl Workspace.perform w := by
  simp only [invoke] at hok
  split at hok
  · rename_i after happly
    obtain ⟨shown, hshown⟩ :=
      Workspace.foldl_present_eq_foldl_perform (e.resolve action w.source).1.messages w
    obtain ⟨more, hmore⟩ := Workspace.applyAttached_eq_foldl_perform happly
    refine ⟨shown ++ more, ?_⟩
    rw [List.foldl_append, ← hshown, ← hmore, ← Except.ok.inj hok]
  · cases hok

end Engine

/-- What an invocation has done to a workspace. -/
structure Invocation.Atomic (inv : Invocation) (w : Workspace) : Prop where
  /-- Without a resolution there is no edit, and no document has changed. -/
  unresolved : ∀ error, inv.resolution = .unresolved error →
    inv.action.edit = none ∧ inv.workspace.documents = w.documents
  /-- With one there is an edit, and the workspace carries it. -/
  resolved : ∀ needsReapply, inv.resolution = .resolved needsReapply →
    ∃ edit, inv.action.edit = some edit ∧ Workspace.Carries edit w inv.workspace
  active : inv.workspace.active = w.active
  roots : inv.workspace.roots = w.roots
  acceptsPrompts : inv.workspace.acceptsPrompts = w.acceptsPrompts
  messages : inv.workspace.messages = w.messages ++ inv.resolution.messages
  openRequests : inv.workspace.openRequests =
    w.openRequests ++ inv.resolution.requests w.acceptsPrompts

/-- In every workspace that operations reach, invoking an action succeeds, whatever edit the action
still holds. It either leaves the documents alone or carries out the whole edit, and it leaves a
workspace that operations reach as well. -/
theorem Engine.invoke_atomic (operations : List Workspace.Operation) (e : Engine)
    (action : CandidateAction) :
    ∃ inv, e.invoke action (Workspace.afterAll operations) = .ok inv ∧
      (inv.resolution, inv.action) =
        e.resolve action (Workspace.afterAll operations).source ∧
      inv.Atomic (Workspace.afterAll operations) ∧
      ∃ more, inv.workspace = Workspace.afterAll (operations ++ more) := by
  have hkeyed := Workspace.afterAll_keyed operations
  have hreached : ∀ inv, e.invoke action (Workspace.afterAll operations) = .ok inv →
      ∃ more, inv.workspace = Workspace.afterAll (operations ++ more) := by
    intro inv hok
    obtain ⟨more, hmore⟩ := invoke_eq_foldl_perform hok
    exact ⟨more, hmore.trans List.foldl_append.symm⟩
  generalize Workspace.afterAll operations = w at hkeyed hreached ⊢
  rcases e.resolve_cases action w.source with ⟨error, hresolve⟩ | ⟨r, hok, hresolve⟩
  · have hinvoke := invoke_of_unresolved hresolve rfl
    refine ⟨_, hinvoke, hresolve.symm, ⟨?_, ?_, rfl, rfl, rfl, rfl, rfl⟩, hreached _ hinvoke⟩
    · intro _ _
      exact ⟨rfl, rfl⟩
    · intro _ hresolved
      cases hresolved
  · have hwell := CandidateAction.resolveEdits_wellFormed hok
    have hopen := Workspace.isOpen_of_resolveEdits hkeyed hok
    have hinvoke := invoke_of_resolved hresolve rfl hwell hopen
    refine ⟨_, hinvoke, hresolve.symm, ⟨?_, ?_, rfl, rfl, rfl, rfl, rfl⟩, hreached _ hinvoke⟩
    · intro _ hunresolved
      cases hunresolved
    · intro _ _
      exact ⟨r.edit, rfl, Workspace.carries_foldl_applyTo hwell hopen rfl⟩

end QuickFix
