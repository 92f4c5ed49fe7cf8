import SocialService.Library.EventMachine
import SocialService.Model

/-! Routing of the submitted forms to the municipalities. -/
namespace SocialService

structure DataController (K : Type) where
  municipalities : List (Municipality K)
  forms : List (FormData K)

namespace DataController

def init {K : Type} [Zero K] : DataController K where
  municipalities := ["Sofia","Blagoevgrad","Varna"].map (Municipality.init · ⟨0,0⟩)
  forms := []

variable {K : Type} [Add K] [Sub K] [Mul K] [Div K] [LT K] [DecidableLT K]

/-- The `for` loop of `sendSignal`; a municipality without a location ends it. -/
def offer (location2D : CLLocationCoordinate2D K) (form : FormData K) :
    List (Municipality K) → List (Municipality K)
  | [] => []
  | municipality :: rest =>
    match municipality.getLocation with
    | none => municipality :: rest
    | some municipalityLocation =>
      (if location2D.liesInsideRegion [municipalityLocation] then municipality.sendForm form
        else municipality) :: offer location2D form rest

def sendSignal (self : DataController K) (form : FormData K) : DataController K :=
  match form.getLocation with
  | none => self
  | some location =>
    let location2D := ⟨location.coordinate.latitude,location.coordinate.longitude⟩
    { self with municipalities := offer location2D form self.municipalities }

def formsDidSet (self : DataController K) : DataController K :=
  match self.forms.getLast? with
  | none => self
  | some newForm => self.sendSignal newForm

def append (self : DataController K) (form : FormData K) : DataController K :=
  formsDidSet { self with forms := self.forms ++ [form] }

/-- A region of one vertex has only the edge from that vertex to itself. -/
theorem liesInsideRegion_singleton (self vertex : CLLocationCoordinate2D K) :
    self.liesInsideRegion [vertex] = false := by
  rw [CLLocationCoordinate2D.liesInsideRegion,CLLocationCoordinate2D.regionLoop]
  simp [safe,CLLocationCoordinate2D.edgeTest]
  rw [CLLocationCoordinate2D.regionLoop]
  simp

theorem offer_eq_self (location2D : CLLocationCoordinate2D K) (form : FormData K)
    (municipalities : List (Municipality K)) :
    offer location2D form municipalities = municipalities := by
  induction municipalities with
  | nil => rfl
  | cons municipality rest ih =>
    cases located : municipality.getLocation <;>
      simp [offer,located,liesInsideRegion_singleton,ih]

theorem append_municipalities (self : DataController K) (form : FormData K) :
    (self.append form).municipalities = self.municipalities := by
  simp only [append,formsDidSet,List.getLast?_concat,sendSignal]
  cases form.getLocation with
  | none => rfl
  | some location => exact offer_eq_self ..

@[simp] theorem append_forms (self : DataController K) (form : FormData K) :
    (self.append form).forms = self.forms ++ [form] := by
  simp only [append,formsDidSet,List.getLast?_concat,sendSignal]
  cases form.getLocation <;> rfl

theorem run_append_municipalities (self : DataController K) (forms : List (FormData K)) :
    (EventMachine.run append self forms).municipalities = self.municipalities := by
  let kept (s : DataController K) : Prop := s.municipalities = self.municipalities
  have start : kept self := rfl
  have keeps (s form) (holds : kept s) : kept (s.append form) :=
    (append_municipalities s form).trans holds
  exact EventMachine.run_invariant keeps forms start

/-- Every form reaches the municipalities it lies in, once and in order, exactly for the runs in
which no form lies in any: a municipality discards whatever it is sent, and is sent nothing. -/
theorem routing_delivers_iff [DecidableEq K] (sites : List (String × CLLocationCoordinate2D K))
    (forms : List (FormData K)) :
    let municipalities := sites.map fun site => Municipality.init site.1 site.2
    (EventMachine.run append ⟨municipalities,[]⟩ forms).municipalities.map Municipality.stored =
        municipalities.map (fun municipality => forms.filter fun form => municipality.Holds form) ↔
      ∀ municipality ∈ municipalities, ∀ form ∈ forms, ¬municipality.Holds form := by
  intro municipalities
  rw [run_append_municipalities,List.map_inj_left]
  have empty : ∀ municipality ∈ municipalities, municipality.stored = [] := by
    intro municipality member
    obtain ⟨site,_,rfl⟩ := List.mem_map.mp member
    rfl
  constructor
  · intro delivered municipality member form appended holds
    have nothing := delivered municipality member
    rw [empty municipality member] at nothing
    exact List.not_mem_nil (nothing ▸ List.mem_filter.mpr ⟨appended,by simpa using holds⟩)
  · intro nowhere municipality member
    rw [empty municipality member,eq_comm,List.filter_eq_nil_iff]
    intro form appended
    simpa using nowhere municipality member form appended

def formAtOrigin : FormData ℚ :=
  .init (.init "Ana" "secret" "ana@x.bg" 0) ⟨[1]⟩ "1 \n Vitosha \n Bulgaria" ⟨⟨0,0⟩⟩ "Streets" "A hole"

theorem form_at_origin_discarded :
    (EventMachine.run append (init (K := ℚ)) [formAtOrigin]).municipalities.map
        Municipality.stored ≠
      (init (K := ℚ)).municipalities.map (fun municipality =>
        [formAtOrigin].filter fun form => municipality.Holds form) := by
  rw [run_append_municipalities]
  decide +kernel

end DataController

end SocialService
