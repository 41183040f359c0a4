import Evidence.Collection
import Mathlib.Data.List.Forall2

/-!
# The transcript of a collection

A collection is an exchange of questions and answers with a source of pods, whose answers may depend
on all that it was asked before.  A transcript writes the exchanges down; it has one visit for each
namespace, and a visit says both what was asked and what the text of the namespace is.

Main results:

- `Collection.exists_visits`: whatever a source answers, there is a transcript of visits.
- `Collection.ofNamespaces_eq_of_answers`: the transcript determines the collected texts.
- `PodSource.Answers.recorded`: a source that keeps the questions has the same transcripts.
- `Collection.ofNamespaces_transcript`: what is asked and what is collected, for every source.
-/

namespace Evidence

variable {σ : Type} {source : PodSource σ} {s s' s'' : σ}

/-! ## Exchanges -/

/-- A question put to a source, with its answer. -/
inductive Exchange where
  /-- The pods of a namespace. -/
  | listing (ns : Text) (answer : Except Failure (List PodContainers))
  /-- The log of a container. -/
  | log (ns pod container : Text) (answer : Except Failure Text)

namespace Exchange

/-- The question of an exchange. -/
def call : Exchange → Call
  | listing ns _ => .list ns
  | log ns pod container _ => .log ns pod container

/-- An exchange happens when the source, asked in one state, gives the answer and goes into another
state. -/
def Happens (source : PodSource σ) (s s' : σ) : Exchange → Prop
  | listing ns answer => source.listPods ns s = (answer, s')
  | log ns pod container answer => source.containerLog ns pod container s = (answer, s')

/-- What an answer adds to the text of its namespace. -/
def text (capture : Capture) : Exchange → Text
  | listing _ (.ok _) => []
  | listing _ (.error e) => "Error listing pods: ".toList ++ e.message ++ ['\n']
  | log _ _ _ (.ok found) =>
      match capture with
      | .whole => found
      | .since start => Log.since start found ++ ['\n']
  | log _ _ _ (.error e) => "Error getting logs: ".toList ++ e.message ++ ['\n']

/-- A source answers each question. -/
theorem exists_happens (source : PodSource σ) (s : σ) (question : Call) :
    ∃ exchange s', call exchange = question ∧ Happens source s s' exchange := by
  cases question with
  | list ns => exact ⟨.listing ns (source.listPods ns s).1, _, rfl, rfl⟩
  | log ns pod container =>
      exact ⟨.log ns pod container (source.containerLog ns pod container s).1, _, rfl, rfl⟩

/-- A source that keeps the questions answers like the one that it stands for, and notes the
question. -/
theorem Happens.recorded {exchange : Exchange} (h : Happens source s s' exchange)
    (calls : List Call) :
    Happens source.recorded (s, calls) (s', calls ++ [call exchange]) exchange := by
  cases exchange with
  | listing ns answer =>
      simp only [Happens] at h
      simp only [Happens, PodSource.recorded, PodSource.noting, h, call]
  | log ns pod container answer =>
      simp only [Happens] at h
      simp only [Happens, PodSource.recorded, PodSource.noting, h, call]

end Exchange

/-! ## Transcripts -/

namespace PodSource

/-- A source goes through exchanges, one after the other. -/
inductive Answers (source : PodSource σ) : σ → List Exchange → σ → Prop where
  | nil (s : σ) : Answers source s [] s
  | cons {s s' s'' : σ} {exchange : Exchange} {rest : List Exchange}
      (happens : exchange.Happens source s s') (later : Answers source s' rest s'') :
      Answers source s (exchange :: rest) s''

namespace Answers

/-- A transcript of two parts goes through a state between them. -/
theorem append_iff {front back : List Exchange} :
    source.Answers s (front ++ back) s'' ↔
      ∃ s', source.Answers s front s' ∧ source.Answers s' back s'' := by
  induction front generalizing s with
  | nil =>
      constructor
      · exact fun h => ⟨s, .nil s, h⟩
      · rintro ⟨s', hnil, h⟩
        cases hnil
        exact h
  | cons exchange front ih =>
      constructor
      · intro h
        cases h with
        | cons happens later =>
            rcases ih.1 later with ⟨s', hfront, hback⟩
            exact ⟨s', .cons happens hfront, hback⟩
      · rintro ⟨s', hfront, hback⟩
        cases hfront with
        | cons happens later => exact .cons happens (ih.2 ⟨s', later, hback⟩)

/-- A source that keeps the questions goes through the same exchanges, and keeps the questions of
all of them. -/
theorem recorded {exchanges : List Exchange} (h : source.Answers s exchanges s')
    (calls : List Call) :
    source.recorded.Answers (s, calls) exchanges (s', calls ++ exchanges.map Exchange.call) := by
  induction h generalizing calls with
  | nil s => simpa using Answers.nil (s, calls)
  | cons happens later ih =>
      rename_i exchange rest
      have hrest := ih (calls ++ [exchange.call])
      rw [List.append_assoc, List.singleton_append] at hrest
      exact .cons (happens.recorded calls) hrest

end Answers

/-- Whatever questions are put to a source, it answers them one after the other. -/
theorem exists_answers (source : PodSource σ) (s : σ) (calls : List Call) :
    ∃ exchanges s', exchanges.map Exchange.call = calls ∧ source.Answers s exchanges s' := by
  induction calls generalizing s with
  | nil => exact ⟨[], s, rfl, .nil s⟩
  | cons question calls ih =>
      rcases Exchange.exists_happens source s question with ⟨exchange, s', rfl, happens⟩
      rcases ih s' with ⟨rest, s'', rfl, later⟩
      exact ⟨exchange :: rest, s'', rfl, .cons happens later⟩

end PodSource

/-! ## Visits -/

namespace Collection

variable {capture : Capture}

/-- The questions for the logs of some pods: for each pod, in the order of the pods, the logs of its
init containers and then of its other containers. -/
def logCalls (ns : Text) (pods : List PodContainers) : List Call :=
  pods.flatMap fun p => (p.initContainers ++ p.containers).map fun container =>
    .log ns p.pod container

/-- A namespace is visited with one listing, and when that succeeds with one question for each
log. -/
inductive IsVisit (ns : ControllerNamespace) : List Exchange → Prop where
  | unlisted (e : Failure) : IsVisit ns [.listing ns.name (.error e)]
  | listed (pods : List PodContainers) (logs : List Exchange)
      (asked : logs.map Exchange.call = logCalls ns.name pods) :
      IsVisit ns (.listing ns.name (.ok pods) :: logs)

/-- The text of a namespace is what the answers of its visit add, behind its label when whole logs
were not asked for. -/
def visitText (capture : Capture) (ns : ControllerNamespace) (visit : List Exchange) : Text :=
  (match capture with
    | .whole => []
    | .since _ => "\n========= ".toList ++ ns.label ++ " =========\n\n".toList)
  ++ visit.flatMap (Exchange.text capture)

/-- The collected texts that visits make up, one for each namespace. -/
def visitLogs (capture : Capture) (namespaces : List ControllerNamespace)
    (visits : List (List Exchange)) : List NamespaceLog :=
  List.zipWith (fun ns visit => ⟨ns, visitText capture ns visit⟩) namespaces visits

/-- The questions for the logs of pods are those for the containers that the collection goes
through. -/
theorem logCalls_eq_map (ns : Text) (pods : List PodContainers) :
    logCalls ns pods = (containersOf pods).map fun asked => .log ns asked.1 asked.2 := by
  simp [logCalls, containersOf, PodContainers.all, List.map_flatMap, Function.comp_def]

/-- Whatever a source answers, there is a visit of a namespace. -/
theorem exists_visit (source : PodSource σ) (ns : ControllerNamespace) (s : σ) :
    ∃ visit s', IsVisit ns visit ∧ source.Answers s visit s' := by
  cases hlist : source.listPods ns.name s with
  | mk answer s' =>
      cases answer with
      | error e => exact ⟨_, s', .unlisted e, .cons hlist (.nil s')⟩
      | ok pods =>
          rcases source.exists_answers s' (logCalls ns.name pods) with ⟨logs, s'', hasked, hlogs⟩
          exact ⟨_, s'', .listed pods logs hasked, .cons hlist hlogs⟩

/-- Whatever a source answers, there is a transcript of visits. -/
theorem exists_visits (source : PodSource σ) (namespaces : List ControllerNamespace) (s : σ) :
    ∃ visits s', List.Forall₂ IsVisit namespaces visits ∧ source.Answers s visits.flatten s' := by
  induction namespaces generalizing s with
  | nil => exact ⟨[], s, .nil, .nil s⟩
  | cons ns namespaces ih =>
      rcases exists_visit source ns s with ⟨visit, s', hvisit, hfirst⟩
      rcases ih s' with ⟨visits, s'', hvisits, hrest⟩
      exact ⟨visit :: visits, s'', .cons hvisit hvisits,
        PodSource.Answers.append_iff.2 ⟨s', hfirst, hrest⟩⟩

/-! ## What is collected -/

/-- One more log is asked for, and what its answer adds comes first. -/
theorem ofContainers_cons {ns pod container more : Text} {asked : List (Text × Text)}
    {answer : Except Failure Text}
    (happens : (Exchange.log ns pod container answer).Happens source s s')
    (hmore : ofContainers source capture ns asked s' = (more, s'')) :
    ofContainers source capture ns ((pod, container) :: asked) s
      = ((Exchange.log ns pod container answer).text capture ++ more, s'') := by
  simp only [Exchange.Happens] at happens
  cases answer with
  | ok found =>
      simp only [ofContainers, bind, StateT.bind, happens, hmore]
      cases capture <;> rfl
  | error e =>
      simp only [ofContainers, bind, StateT.bind, happens, hmore]
      rfl

/-- The answers to the questions for some logs make up the text that is collected for them. -/
theorem ofContainers_eq_of_answers {ns : Text} {asked : List (Text × Text)}
    {logs : List Exchange}
    (hasked : logs.map Exchange.call = asked.map fun asked => .log ns asked.1 asked.2)
    (h : source.Answers s logs s') :
    ofContainers source capture ns asked s = (logs.flatMap (Exchange.text capture), s') := by
  induction asked generalizing s logs with
  | nil =>
      obtain rfl : logs = [] := List.map_eq_nil_iff.1 hasked
      cases h
      rfl
  | cons first asked ih =>
      rcases first with ⟨pod, container⟩
      cases h with
      | nil s => simp at hasked
      | cons happens later =>
          rename_i mid exchange rest
          rcases List.cons.inj hasked with ⟨hcall, hrest⟩
          have hmore := ih hrest later
          cases exchange with
          | listing ns' answer => cases hcall
          | log ns' pod' container' answer =>
              cases hcall
              exact ofContainers_cons happens hmore

/-- The answers of a visit make up the text that is collected for its namespace. -/
theorem ofNamespace_eq_of_answers {ns : ControllerNamespace} {visit : List Exchange}
    (hvisit : IsVisit ns visit) (h : source.Answers s visit s') :
    ofNamespace source capture ns s = (visitText capture ns visit, s') := by
  cases hvisit with
  | unlisted e =>
      cases h with
      | cons happens later =>
          cases later
          have htext : visitText capture ns [.listing ns.name (.error e)]
              = header capture ns ++ listFailure e := by
            have hpiece := List.append_nil (listFailure e)
            cases capture with
            | whole => exact congrArg (header .whole ns ++ ·) hpiece
            | since start => exact congrArg (header (.since start) ns ++ ·) hpiece
          simp only [Exchange.Happens] at happens
          simp only [ofNamespace, bind, StateT.bind, happens]
          rw [htext]
          rfl
  | listed pods logs asked =>
      cases h with
      | cons happens later =>
          rw [logCalls_eq_map] at asked
          have hlogs : ofContainers source capture ns.name (containersOf pods) _ = _ :=
            ofContainers_eq_of_answers asked later
          simp only [Exchange.Happens] at happens
          simp only [ofNamespace, bind, StateT.bind, happens, hlogs]
          cases capture <;> rfl

/-- A transcript of visits determines the collected texts, one for each namespace. -/
theorem ofNamespaces_eq_of_answers {namespaces : List ControllerNamespace}
    {visits : List (List Exchange)} (hvisits : List.Forall₂ IsVisit namespaces visits)
    (h : source.Answers s visits.flatten s') :
    ofNamespaces source capture namespaces s = (visitLogs capture namespaces visits, s') := by
  induction hvisits generalizing s with
  | nil =>
      cases h
      rfl
  | cons hvisit hvisits ih =>
      rename_i ns visit namespaces visits
      rcases PodSource.Answers.append_iff.1 h with ⟨mid, hfirst, hrest⟩
      have htext : ofNamespace source capture ns s = _ := ofNamespace_eq_of_answers hvisit hfirst
      have hmore := ih hrest
      simp only [ofNamespaces, bind, StateT.bind, htext, hmore]
      rfl

/-- A collection goes through one visit for each namespace, in their order, whatever a source
answers and remembers: the questions are those of the visits and no others, and the texts are what
the answers of each visit add. -/
theorem ofNamespaces_transcript (source : PodSource σ) (capture : Capture)
    (namespaces : List ControllerNamespace) (s : σ) :
    ∃ visits s', List.Forall₂ IsVisit namespaces visits ∧
      source.Answers s visits.flatten s' ∧
      ofNamespaces source capture namespaces s = (visitLogs capture namespaces visits, s') ∧
      ofNamespaces source.recorded capture namespaces (s, [])
        = (visitLogs capture namespaces visits, s', visits.flatten.map Exchange.call) := by
  rcases exists_visits source namespaces s with ⟨visits, s', hvisits, h⟩
  have hrecorded := h.recorded []
  rw [List.nil_append] at hrecorded
  exact ⟨visits, s', hvisits, h, ofNamespaces_eq_of_answers hvisits h,
    ofNamespaces_eq_of_answers hvisits hrecorded⟩

end Collection

end Evidence
