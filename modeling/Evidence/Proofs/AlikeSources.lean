import Evidence.Collection

/-!
# Sources that answer alike

Two sources may have memories of different kinds.  If they answer every question of a collection
with the same pods, the same logs and failures of the same wording, then what is collected is the
same.

Main definitions:

- `RunAlike`: computations that lead from related memories to related results and memories.
- `SameAnswer`: answers that are the same up to the causes behind a failure.
- `PodSource.AlikeOver`: sources that answer alike over a namespace.

Main results:

- `RunAlike.bind`: computations that go on alike run alike.
- `Collection.runAlike_ofNamespaces`: the same is collected from sources that answer alike.
-/

namespace Evidence

variable {σ τ α β γ δ : Type} {R : σ → τ → Prop}

/-! ## Computations that run alike -/

/-- Two computations run alike when related memories lead to related results in related memories. -/
def RunAlike (R : σ → τ → Prop) (Q : α → β → Prop) (run : StateM σ α) (run' : StateM τ β) : Prop :=
  ∀ s t, R s t → Q (run s).1 (run' t).1 ∧ R (run s).2 (run' t).2

namespace RunAlike

variable {Q : α → β → Prop} {P : γ → δ → Prop} {run : StateM σ α} {run' : StateM τ β}
  {a : α} {b : β}

/-- Related results are given alike. -/
theorem pure (h : Q a b) : RunAlike R Q (pure a) (pure b) := by
  intro s t hmemory
  exact ⟨h, hmemory⟩

/-- Computations run alike when they start alike and go on alike after related results. -/
theorem bind {next : α → StateM σ γ} {next' : β → StateM τ δ} (h : RunAlike R Q run run')
    (hnext : ∀ a b, Q a b → RunAlike R P (next a) (next' b)) :
    RunAlike R P (run >>= next) (run' >>= next') := by
  intro s t hmemory
  obtain ⟨hresult, hmemory'⟩ := h s t hmemory
  exact hnext _ _ hresult _ _ hmemory'

/-- What holds of every result of the first of two computations may be asked of it as well. -/
theorem and_left {holds : α → Prop} (h : RunAlike R Q run run') (hholds : ∀ s, holds (run s).1) :
    RunAlike R (fun a b => Q a b ∧ holds a) run run' := by
  intro s t hmemory
  obtain ⟨hresult, hmemory'⟩ := h s t hmemory
  exact ⟨⟨hresult, hholds s⟩, hmemory'⟩

end RunAlike

/-! ## Answers -/

/-- Answers are the same when they have one value, or are failures with one message.  The causes
behind the failures may differ. -/
inductive SameAnswer : (answer answer' : Except Failure α) → Prop where
  | ok (value : α) : SameAnswer (.ok value) (.ok value)
  | error {e e' : Failure} (message : e.message = e'.message) : SameAnswer (.error e) (.error e')

open Collection

/-- Two sources answer alike over a namespace when they list the same pods, whose containers are all
known, and read the same logs of known containers. -/
structure PodSource.AlikeOver (R : σ → τ → Prop) (known : (pod container : Text) → Prop)
    (source : PodSource σ) (other : PodSource τ) (ns : Text) : Prop where
  listPods : RunAlike R (fun answer answer' => SameAnswer answer answer' ∧
    ∀ pods, answer = .ok pods → ∀ asked ∈ containersOf pods, known asked.1 asked.2)
    (source.listPods ns) (other.listPods ns)
  containerLog : ∀ pod container, known pod container →
    RunAlike R SameAnswer (source.containerLog ns pod container)
      (other.containerLog ns pod container)

namespace Collection

variable {known : Text → Text → Prop} {source : PodSource σ} {other : PodSource τ}

/-- The logs of some containers are the same where each of them is. -/
theorem runAlike_ofContainers {ns : Text} {containers : List (Text × Text)}
    (h : ∀ asked ∈ containers, RunAlike R SameAnswer (source.containerLog ns asked.1 asked.2)
      (other.containerLog ns asked.1 asked.2)) (capture : Capture) :
    RunAlike R (· = ·) (ofContainers source capture ns containers)
      (ofContainers other capture ns containers) := by
  induction containers with
  | nil => exact .pure rfl
  | cons asked rest ih =>
    have hrest := ih fun later hlater => h later (List.mem_cons_of_mem asked hlater)
    rw [ofContainers, ofContainers]
    apply RunAlike.bind (h asked List.mem_cons_self)
    intro answer answer' hanswer
    apply RunAlike.bind hrest
    intro more more' hmore
    subst hmore
    cases hanswer with
    | ok log => exact .pure rfl
    | @error e e' message =>
      -- Of a failure nothing but the message is collected.
      have hline : logFailure e = logFailure e' := by
        unfold logFailure
        rw [message]
      exact .pure (congrArg (· ++ more) hline)

/-- The text of a namespace is the same over sources that answer alike. -/
theorem runAlike_ofNamespace {ns : ControllerNamespace}
    (h : PodSource.AlikeOver R known source other ns.name) (capture : Capture) :
    RunAlike R (· = ·) (ofNamespace source capture ns) (ofNamespace other capture ns) := by
  unfold ofNamespace
  apply RunAlike.bind h.listPods
  intro answer answer' hlisted
  obtain ⟨hanswer, hknown⟩ := hlisted
  cases hanswer with
  | ok pods =>
    apply RunAlike.bind (runAlike_ofContainers (fun asked hasked =>
      h.containerLog asked.1 asked.2 (hknown pods rfl asked hasked)) capture)
    intro text text' htext
    exact .pure (congrArg _ htext)
  | @error e e' message =>
    have hline : listFailure e = listFailure e' := by
      unfold listFailure
      rw [message]
    exact .pure (congrArg (header capture ns ++ ·) hline)

/-- What is collected for some namespaces is the same over sources that answer alike. -/
theorem runAlike_ofNamespaces {namespaces : List ControllerNamespace}
    (h : ∀ ns ∈ namespaces, PodSource.AlikeOver R known source other ns.name) (capture : Capture) :
    RunAlike R (· = ·) (ofNamespaces source capture namespaces)
      (ofNamespaces other capture namespaces) := by
  induction namespaces with
  | nil => exact .pure rfl
  | cons ns rest ih =>
    have hrest := ih fun later hlater => h later (List.mem_cons_of_mem ns hlater)
    rw [ofNamespaces, ofNamespaces]
    apply RunAlike.bind (runAlike_ofNamespace (h ns List.mem_cons_self) capture)
    intro text text' htext
    apply RunAlike.bind hrest
    intro more more' hmore
    exact .pure (by rw [htext, hmore])

end Collection

end Evidence
