/-! Runs of a machine that answers one event at a time. `Throughout` speaks about every state
that a run visits, `Along` about every step it takes, in the state before the step. -/
namespace EventMachine

variable {S E : Type}

def run (step : S → E → S) (s : S) (events : List E) : S := events.foldl step s

def Throughout (step : S → E → S) (p : S → Prop) (s : S) : List E → Prop
  | [] => p s
  | event :: rest => p s ∧ Throughout step p (step s event) rest

def Along (step : S → E → S) (p : S → E → Prop) (s : S) : List E → Prop
  | [] => True
  | event :: rest => p s event ∧ Along step p (step s event) rest

variable {step : S → E → S} {s : S}

@[simp] theorem run_nil : run step s [] = s := rfl

@[simp] theorem run_cons (event : E) (rest : List E) :
    run step s (event :: rest) = run step (step s event) rest := rfl

theorem along_append {p : S → E → Prop} (before after : List E) :
    Along step p s (before ++ after) ↔
      Along step p s before ∧ Along step p (run step s before) after := by
  induction before generalizing s with
  | nil => simp [Along]
  | cons event rest ih => simp [Along,ih,and_assoc]

theorem Throughout.mono {p q : S → Prop} (weaker : ∀ s, p s → q s) {events : List E}
    (all : Throughout step p s events) : Throughout step q s events := by
  induction events generalizing s with
  | nil => exact weaker s all
  | cons event rest ih => exact ⟨weaker s all.1,ih all.2⟩

theorem Throughout.last {p : S → Prop} {events : List E}
    (all : Throughout step p s events) : p (run step s events) := by
  induction events generalizing s with
  | nil => exact all
  | cons event rest ih => exact ih all.2

theorem throughout_iff_prefix {p : S → Prop} (events : List E) :
    Throughout step p s events ↔ ∀ before, before <+: events → p (run step s before) := by
  induction events generalizing s with
  | nil => simp [Throughout]
  | cons event rest ih =>
    rw [Throughout,ih]
    constructor
    · rintro ⟨now,later⟩ before begins
      rcases List.prefix_cons_iff.mp begins with rfl | ⟨more,rfl,kept⟩
      · exact now
      · exact later more kept
    · intro all
      refine ⟨all [] List.nil_prefix,?_⟩
      intro before begins
      exact all (event :: before) (List.cons_prefix_cons.mpr ⟨rfl,begins⟩)

/-- An invariant that every step meeting its guard keeps holds in every state visited. -/
theorem throughout_of_guarded {inv : S → Prop} {guard : S → E → Prop}
    (keeps : ∀ s event, inv s → guard s event → inv (step s event))
    {events : List E} (start : inv s) (guarded : Along step guard s events) :
    Throughout step inv s events := by
  induction events generalizing s with
  | nil => exact start
  | cons event rest ih => exact ⟨start,ih (keeps s event start guarded.1) guarded.2⟩

theorem run_invariant {inv : S → Prop} (keeps : ∀ s event, inv s → inv (step s event))
    (events : List E) (start : inv s) : inv (run step s events) := by
  induction events generalizing s with
  | nil => exact start
  | cons event rest ih => exact ih (keeps s event start)

/-- An invariant may speak of the events behind a state. -/
theorem run_history {inv : List E → S → Prop}
    (keeps : ∀ history s event, inv history s → inv (history ++ [event]) (step s event))
    (events : List E) (start : inv [] s) : inv events (run step s events) := by
  suffices general : ∀ history s, inv history s → inv (history ++ events) (run step s events) from
    general [] s start
  clear start
  induction events with
  | nil => intro history s holds; simpa using holds
  | cons event rest ih =>
    intro history s holds
    simpa using ih (history ++ [event]) _ (keeps history s event holds)

/-- What a guarded invariant says of a step holds of every step of a guarded run. -/
theorem along_of_guarded {inv : S → Prop} {guard claim : S → E → Prop}
    (keeps : ∀ s event, inv s → guard s event → inv (step s event))
    (local_claim : ∀ s event, inv s → guard s event → claim s event)
    {events : List E} (start : inv s) (guarded : Along step guard s events) :
    Along step claim s events := by
  induction events generalizing s with
  | nil => trivial
  | cons event rest ih =>
    exact ⟨local_claim s event start guarded.1,ih (keeps s event start guarded.1) guarded.2⟩

/-- Two machines whose states stay related as long as the second meets its property: the related
properties hold along the same runs. -/
theorem along_iff_of_simulation {T : Type} {step' : T → E → T} {p : S → E → Prop}
    {q : T → E → Prop} (related : S → T → Prop)
    (same : ∀ s t event, related s t → (p s event ↔ q t event))
    (keeps : ∀ s t event, related s t → q t event → related (step s event) (step' t event))
    (events : List E) {t : T} (start : related s t) :
    Along step p s events ↔ Along step' q t events := by
  induction events generalizing s t with
  | nil => exact Iff.rfl
  | cons event rest ih =>
    constructor
    · rintro ⟨first,later⟩
      have met := (same s t event start).mp first
      exact ⟨met,(ih (keeps s t event start met)).mp later⟩
    · rintro ⟨met,later⟩
      exact ⟨(same s t event start).mpr met,(ih (keeps s t event start met)).mpr later⟩

/-- A run cut into sections is a run of the machine that takes a section at a time. -/
theorem along_flatMap {F : Type} {p : S → E → Prop} (expand : F → List E) (sections : List F) :
    Along step p s (sections.flatMap expand) ↔
      Along (fun s part => run step s (expand part)) (fun s part => Along step p s (expand part)) s
        sections := by
  induction sections generalizing s with
  | nil => exact Iff.rfl
  | cons part rest ih => rw [List.flatMap_cons,along_append,ih,Along]

theorem along_congr {inv : S → Prop} {p q : S → E → Prop}
    (keeps : ∀ s event, inv s → inv (step s event))
    (same : ∀ s event, inv s → (p s event ↔ q s event))
    (events : List E) (start : inv s) : Along step p s events ↔ Along step q s events := by
  apply along_iff_of_simulation (fun s t => s = t ∧ inv s) ?_ ?_ events ⟨rfl,start⟩
  · rintro s _ event ⟨rfl,holds⟩
    exact same s event holds
  · rintro s _ event ⟨rfl,holds⟩ _
    exact ⟨rfl,keeps s event holds⟩

/-- A state property whose survival over one step is exactly the guard of that step: it holds
in every state visited if and only if every step meets the guard. -/
theorem throughout_iff_along {inv p : S → Prop} {guard : S → E → Prop}
    (keeps : ∀ s event, inv s → inv (step s event))
    (survives : ∀ s event, inv s → p s → (p (step s event) ↔ guard s event))
    (events : List E) (start : inv s) (holds : p s) :
    Throughout step p s events ↔ Along step guard s events := by
  induction events generalizing s with
  | nil => exact ⟨fun _ => trivial,fun _ => holds⟩
  | cons event rest ih =>
    constructor
    · rintro ⟨_,later⟩
      have next : p (step s event) := by cases rest with
        | nil => exact later
        | cons _ _ => exact later.1
      exact ⟨(survives s event start holds).mp next,(ih (keeps s event start) next).mp later⟩
    · rintro ⟨guarded,later⟩
      have next := (survives s event start holds).mpr guarded
      exact ⟨holds,(ih (keeps s event start) next).mpr later⟩

/-! ### Runs that are runs of another machine -/

section Emitted
variable {T F O : Type}

/-- What the steps of a run put out, each by the state before it. -/
def emitted (step : S → E → S) (emit : S → E → List O) (s : S) : List E → List O
  | [] => []
  | event :: rest => emit s event ++ emitted step emit (step s event) rest

theorem run_append (before after : List E) :
    run step s (before ++ after) = run step (run step s before) after := by
  simp [run]

theorem emitted_append (emit : S → E → List O) (before after : List E) :
    emitted step emit s (before ++ after) =
      emitted step emit s before ++ emitted step emit (run step s before) after := by
  induction before generalizing s with
  | nil => rfl
  | cons event rest ih => simp [emitted,ih]

/-- An invariant may speak of what was put out before a state. -/
theorem run_emitted {emit : S → E → List O} {inv : List O → S → Prop}
    (keeps : ∀ out s event, inv out s → inv (out ++ emit s event) (step s event))
    (events : List E) (start : inv [] s) :
    inv (emitted step emit s events) (run step s events) := by
  suffices general : ∀ out s, inv out s →
      inv (out ++ emitted step emit s events) (run step s events) from general [] s start
  clear start
  induction events with
  | nil => intro out s holds; simpa [emitted] using holds
  | cons event rest ih =>
    intro out s holds
    simpa [emitted] using ih _ _ (keeps out s event holds)

variable {step' : T → F → T} {translate : S → E → List F} {related : S → T → Prop}
  {allowed : E → Prop} {t : T}

/-- Each allowed step is matched by a run of the other machine, possibly an empty one. -/
theorem run_simulated
    (keeps : ∀ s t event, related s t → allowed event →
      related (step s event) (run step' t (translate s event)))
    (events : List E) (all : ∀ event ∈ events, allowed event) (start : related s t) :
    related (run step s events) (run step' t (emitted step translate s events)) := by
  induction events generalizing s t with
  | nil => exact start
  | cons event rest ih =>
    obtain ⟨first,later⟩ := List.forall_mem_cons.mp all
    rw [run_cons,emitted,run_append]
    exact ih later (keeps s t event start first)

/-- A property of the steps that agrees with one of the steps that match them. -/
theorem along_simulated {p : S → E → Prop} {q : T → F → Prop}
    (keeps : ∀ s t event, related s t → allowed event →
      related (step s event) (run step' t (translate s event)))
    (same : ∀ s t event, related s t → allowed event →
      (p s event ↔ Along step' q t (translate s event)))
    (events : List E) (all : ∀ event ∈ events, allowed event) (start : related s t) :
    Along step p s events ↔ Along step' q t (emitted step translate s events) := by
  induction events generalizing s t with
  | nil => exact Iff.rfl
  | cons event rest ih =>
    obtain ⟨first,later⟩ := List.forall_mem_cons.mp all
    rw [emitted,along_append,Along]
    exact and_congr (same s t event start first) (ih later (keeps s t event start first))

end Emitted

/-! ### What is counted along a run -/

section Total

def total (step : S → E → S) (cost : S → E → Nat) (s : S) : List E → Nat
  | [] => 0
  | event :: rest => cost s event + total step cost (step s event) rest

/-- A measure of lists that adds up can be taken step by step. -/
theorem measure_emitted {O : Type} (measure : List O → Nat) (nil : measure [] = 0)
    (append : ∀ xs ys, measure (xs ++ ys) = measure xs + measure ys) (emit : S → E → List O)
    (events : List E) : measure (emitted step emit s events) =
      total step (fun s event => measure (emit s event)) s events := by
  induction events generalizing s with
  | nil => exact nil
  | cons event rest ih => rw [emitted,append,ih,total]

@[simp] theorem total_zero (events : List E) : total step (fun _ _ => 0) s events = 0 := by
  induction events generalizing s with
  | nil => rfl
  | cons event rest ih => rw [total,ih]

variable {inv : S → Prop} {gain loss : S → E → Nat} (weight : S → Nat)

/-- A weight that every step keeps in balance. -/
theorem run_balanced (keeps : ∀ s event, inv s → inv (step s event))
    (balance : ∀ s event, inv s →
      weight (step s event) + loss s event = weight s + gain s event)
    (events : List E) (start : inv s) :
    weight (run step s events) + total step loss s events =
      weight s + total step gain s events := by
  induction events generalizing s with
  | nil => rfl
  | cons event rest ih =>
    have first := balance s event start
    have later := ih (keeps s event start)
    simp only [run_cons,total]
    omega

/-- A weight that grows by what a step gains at most. -/
theorem run_bounded (keeps : ∀ s event, inv s → inv (step s event))
    (bound : ∀ s event, inv s →
      weight (step s event) + loss s event ≤ weight s + gain s event)
    (events : List E) (start : inv s) :
    weight (run step s events) + total step loss s events ≤
      weight s + total step gain s events := by
  induction events generalizing s with
  | nil => exact Nat.le_refl _
  | cons event rest ih =>
    have first := bound s event start
    have later := ih (keeps s event start)
    simp only [run_cons,total]
    omega

end Total

end EventMachine
