import BuildBench.Proofs.Run.Likeness

set_option autoImplicit false

/-! The metrics store stands by: it is told of runs and has no part in them. Main statement: with
another store, or with none, a run has the same outcome, calls the same others in the same order, and
leaves the host, the files and the ledger in the same state. -/

namespace BuildBench.Run

open BuildBench.Definition BuildBench.Entry BuildBench.Files

variable {σ τ υ α : Type}

/-- The same collaborators, but another metrics store is told, or none. -/
def Collaborators.reportingTo (collaborators : Collaborators σ τ) (store : Option (Sink υ)) :
    Collaborators σ υ where
  host := collaborators.host
  sink := store

/-- A summary is told to the metrics store, or it is noted that this failed. -/
def Event.isTelling : Event → Bool
  | .push _ _ | .notice .pushFailed => true
  | _ => false

/-- All that happened, but for what the metrics store was told. -/
def untold (events : List Event) : List Event :=
  events.filter fun event => !event.isTelling

@[simp]
theorem untold_append (events later : List Event) :
    untold (events ++ later) = untold events ++ untold later :=
  List.filter_append _ _

/-- Since certain journals the same was entered on both sides, but for what the stores were told. -/
def Likeness.untold (since before : List Event) : Likeness where
  Journals journal other := ∃ made others, journal = since ++ made ∧ other = before ++ others ∧
    Run.untold made = Run.untold others
  enter := by
    rintro journal other ⟨made, others, rfl, rfl, same⟩ event
    refine ⟨made ++ [event], others ++ [event], List.append_assoc _ _ _, List.append_assoc _ _ _, ?_⟩
    rw [untold_append, untold_append, same]

/-- A summary reaches the store, and nothing else on the bench. -/
theorem Action.push_apply (collaborators : Collaborators σ τ) (summary : Summary)
    (bench : Bench σ τ) :
    ∃ sink told, (push collaborators summary bench).2 =
        { bench with sink, journal := bench.journal ++ told } ∧ untold told = [] := by
  unfold push
  cases collaborators.sink with
  | none => exact ⟨bench.sink, [], by rw [List.append_nil]; rfl, rfl⟩
  | some store =>
      cases answered : (onSink (store.push summary) bench).1 with
      | ok value =>
          refine ⟨(store.push summary bench.sink).2, [.push summary (.ok ())], ?_, rfl⟩
          simp only [bind_apply, answered]
          rfl
      | error error =>
          refine ⟨(store.push summary bench.sink).2,
            [.push summary (.error error), .notice .pushFailed], ?_, rfl⟩
          simp only [bind_apply, answered]
          change Bench.mk _ _ _ _ ((bench.journal ++ [_]) ++ [_]) = _
          rw [List.append_assoc]
          rfl

namespace Pass

variable (since before : List Event) (collaborators : Collaborators σ τ) (store : Option (Sink υ))

theorem push_agree (summary : Summary) :
    (Likeness.untold since before).Agree (Action.push collaborators summary)
      (Action.push (collaborators.reportingTo store) summary) := by
  intro bench other alike
  obtain ⟨sink, told, left, nothing⟩ := Action.push_apply collaborators summary bench
  obtain ⟨opposite, given, right, neither⟩ :=
    Action.push_apply (collaborators.reportingTo store) summary other
  obtain ⟨made, others, made_eq, others_eq, same⟩ := alike.journals
  refine ⟨rfl, ?_⟩
  rw [left, right]
  refine ⟨alike.host, alike.files, alike.ledger, made ++ told, others ++ given, ?_, ?_, ?_⟩
  · rw [made_eq, List.append_assoc]
  · rw [others_eq, List.append_assoc]
  · rw [untold_append, untold_append, nothing, neither, same]

theorem closing_agree (pass : Pass) (result : Except Error Report) :
    (Likeness.untold since before).Agree (closing collaborators pass result)
      (closing (collaborators.reportingTo store) pass result) := by
  have told := push_agree since before collaborators store (pass.summary (pass.outcome result))
  cases result with
  | ok report => exact told.bind fun _ => .pure _
  | error error => exact (Likeness.Agree.report .runFailed).bind fun _ => told.bind fun _ => .pure _

theorem perform_agree (settings : Settings) (job : Job) (slices : Except Cpu.Error Slices) :
    (Likeness.untold since before).Agree (perform collaborators settings job slices)
      (perform (collaborators.reportingTo store) settings job slices) :=
  (Likeness.opening_agree _ collaborators.host settings job).bind fun pass =>
    (Likeness.runToEnd_agree _ collaborators.host pass slices).bind fun result =>
      closing_agree since before collaborators store pass result

end Pass

namespace Slot

variable (since before : List Event) (collaborators : Collaborators σ τ) (store : Option (Sink υ))
  (settings : Settings) (build : Build) (suite : Suite)

theorem perform_agree (slot : Slot) :
    (Likeness.untold since before).Agree (slot.perform collaborators settings build suite)
      (slot.perform (collaborators.reportingTo store) settings build suite) := by
  cases slot with
  | unknown name =>
      exact (Likeness.Agree.report .topologyUnknown).bind fun _ =>
        (Likeness.Agree.onHost _).bind fun _ => .pure _
  | planned topology position =>
      exact (Likeness.retryDeferred_agree _ collaborators.host).bind fun _ =>
        Pass.perform_agree since before collaborators store settings _ _

theorem performAll_agree (slots : List Slot) :
    (Likeness.untold since before).Agree (performAll collaborators settings build suite slots)
      (performAll (collaborators.reportingTo store) settings build suite slots) := by
  induction slots with
  | nil => exact .pure []
  | cons slot rest ih =>
      exact (perform_agree since before collaborators store settings build suite slot).bind
        fun _ => ih.bind fun _ => .pure _

end Slot

end BuildBench.Run
