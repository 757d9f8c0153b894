import ObjectModel.Proofs.Evaluation
import ObjectModel.Proofs.Lineage
import ObjectModel.Proofs.Step

/-!
# What a store is stocked with

Operations make values and methods of a few sorts only: numbers, objects, functions and so on, and
the methods that users define.  Functions of the host, native methods and events are never made, but
only handed on.  So if a store holds none of certain values, and its classes have none of certain
methods, no run that is given none brings one in.

What may be held and what may be defined is a stock.  Every stock makes a discipline, which is
lawful whatever the stock, so all that is left to show of a run is what it was given.

## Main definitions

* `Stock`, `Store.Stocked` — what may be held and defined, and the stores where nothing else is.
* `Discipline.stocking` — the rule that nothing else is stored, passed or found.
* `Discipline.both` — the rules of two disciplines.

## Main results

* `Discipline.stocking_lawful` — every operation on the store keeps to the rule.
* `Discipline.Lawful.both` — so it does to the rules of two disciplines if it does to each.
-/

namespace ObjectModel

variable {core : Core} {s t : Store}

/-- Whether a value is a result, and no function of the host. -/
def Value.isOrdinary : Value → Bool
  | .builtin _ _ | .pending _ _ | .fault _ => false
  | _ => true

/-- The values that may be held, and the methods that classes may have.  Among them is whatever
operations make. -/
structure Stock where
  value : Value → Prop
  method : ClassRef → Method → Prop
  value_of_isOrdinary : ∀ {v : Value}, v.isOrdinary = true → value v
  value_of_pending : ∀ {serial : Nat} {payload : Value},
    value (.pending serial payload) → value payload
  method_user : ∀ (c : ClassRef) (closure : Closure), method c (.user closure)

namespace Store

variable {stock : Stock}

/-- The store holds and defines nothing but what the stock admits. -/
structure Stocked (stock : Stock) (s : Store) : Prop where
  held : ∀ ⦃value : Value⦄, s.Holds value → stock.value value
  defined : ∀ ⦃c : ClassRef⦄ ⦃name : String⦄ ⦃method : Method⦄,
    s.localMethod? c name = some method → stock.method c method

/-- A change keeps a store stocked if whatever it adds is in the stock. -/
theorem Stocked.change (hs : s.Stocked stock)
    (hheld : ∀ ⦃value : Value⦄, t.Holds value → stock.value value ∨ s.Holds value)
    (hdefined : ∀ ⦃c : ClassRef⦄ ⦃name : String⦄ ⦃method : Method⦄,
      t.localMethod? c name = some method →
        stock.method c method ∨ s.localMethod? c name = some method) : t.Stocked stock where
  held := fun _ hvalue => (hheld hvalue).elim id (@hs.held _)
  defined := fun _ _ _ hmethod => (hdefined hmethod).elim id (@hs.defined _ _ _)

/-- A write that leaves the methods alone. -/
theorem Stocked.write (hs : s.Stocked stock)
    (hheld : ∀ ⦃value : Value⦄, t.Holds value → stock.value value ∨ s.Holds value)
    (hclasses : t.classes = s.classes) : t.Stocked stock := by
  refine hs.change hheld fun c name method hmethod => .inr ?_
  rwa [localMethod?, hclasses] at hmethod

/-- A write that adds no value either. -/
theorem Stocked.of_eq (hs : s.Stocked stock) (hclasses : t.classes = s.classes)
    (harrays : t.arrays = s.arrays) (hobjects : t.objects = s.objects)
    (hscopes : t.scopes = s.scopes) : t.Stocked stock :=
  hs.write (fun _ hvalue => .inr (hvalue.of_eq harrays hobjects hscopes)) hclasses

/-- A new class has no methods. -/
theorem Stocked.addClass (hs : s.Stocked stock) {cell : ClassCell} (hcell : cell.methods = ∅) :
    (s.addClass cell).2.Stocked stock :=
  hs.change (fun _ hvalue => .inr (hvalue.of_eq rfl rfl rfl))
    fun _ _ _ hmethod => .inr (localMethod?_of_addClass hcell hmethod)

theorem Stocked.setVar (hs : s.Stocked stock) {scope : ScopeRef} {name : String} {value : Value}
    (hvalue : stock.value value) : (s.setVar scope name value).Stocked stock := by
  refine hs.write (fun other hother => ?_) rfl
  rcases holds_setVar hother with rfl | hold
  · exact .inl hvalue
  · exact .inr hold

/-- An instance starts without instance variables. -/
theorem Stocked.allocate {c : ClassRef} {value : Value} (hs : s.Stocked stock)
    (hmade : s.allocate c = .ok (value, t)) : t.Stocked stock ∧ value.isOrdinary = true := by
  rcases allocate_eq_ok hmade with ⟨tag, -, heq⟩ | ⟨-, heq⟩
  · cases heq
    exact ⟨hs.write (fun _ hvalue => .inr (holds_newObject hvalue)) rfl, rfl⟩
  · cases heq
    exact ⟨hs.of_eq rfl rfl rfl rfl, rfl⟩

theorem Stocked.ensureEigenclass {value : Value} {e : ClassRef} (hs : s.Stocked stock)
    (hmade : s.ensureEigenclass core value = .ok (e, t)) : t.Stocked stock := by
  rcases ensureEigenclass_eq_ok hmade with ⟨-, rfl⟩ | ⟨carrier, birth, -, -, -, -, rfl⟩
  · exact hs
  · exact (hs.addClass rfl).of_eq rfl rfl rfl rfl

/-- A method of a user may be defined anywhere. -/
theorem Stocked.defineMethod (hs : s.Stocked stock) (c : ClassRef) (name : String)
    (closure : Closure) : (s.defineMethod c name (.user closure)).Stocked stock := by
  refine hs.change (fun _ hvalue => .inr (hvalue.of_eq rfl rfl rfl)) fun d key method hmethod => ?_
  rcases localMethod?_of_defineMethod hmethod with rfl | hold
  · exact .inl (stock.method_user d closure)
  · exact .inr hold

theorem Stocked.defineOnObject {value : Value} {name : String} {closure : Closure}
    (hs : s.Stocked stock) (h : s.defineOnObject core value name (.user closure) = .ok t) :
    t.Stocked stock := by
  cases hmade : s.ensureEigenclass core value with
  | error fault =>
    rw [Store.defineOnObject, hmade] at h
    cases h
  | ok made =>
    rw [Store.defineOnObject, hmade] at h
    cases h
    exact (hs.ensureEigenclass hmade).defineMethod _ _ _

/-- To enter a function is to bind the receiver and the arguments. -/
theorem Stocked.enter (hs : s.Stocked stock) {closure : Closure} {receiver? : Option Value}
    {args : List Value} (hreceiver : ∀ receiver ∈ receiver?, stock.value receiver)
    (hargs : ∀ arg ∈ args, stock.value arg) :
    (s.enter closure receiver? args).2.Stocked stock := by
  have hbound : ((s.newScope (some closure.scope)).2.setVars s.scopes.next
      (closure.params.zip args)).Stocked stock := by
    refine hs.write (fun value hvalue => ?_) ?_
    · rcases holds_setVars hvalue with ⟨binding, hbinding, rfl⟩ | hold
      · exact .inl (hargs _ (List.of_mem_zip hbinding).2)
      · exact .inr (holds_newScope hold)
    · exact classes_setVars _ s.scopes.next (closure.params.zip args)
  cases receiver? with
  | none => exact hbound
  | some receiver => exact hbound.setVar (hreceiver receiver rfl)

end Store

namespace Discipline

/-! ### The discipline of a stock -/

/-- Nothing is stored, passed or found but what the stock admits. -/
def stocking (stock : Stock) : Discipline where
  Inv := Store.Stocked stock
  Leads _ _ := True
  Fit _ value := stock.value value
  FitMethod _ method := ∃ c, stock.method c method
  FitScope _ _ := True

theorem stocking_lawful (stock : Stock) (core : Core) : (stocking stock).Lawful core where
  refl := fun _ => trivial
  trans := fun _ _ => trivial
  fit_mono := fun _ h => h
  method_mono := fun _ h => h
  scope_mono := fun _ h => h
  fit_nil := fun _ => stock.value_of_isOrdinary rfl
  fit_bool := fun _ _ => stock.value_of_isOrdinary rfl
  fit_int := fun _ _ => stock.value_of_isOrdinary rfl
  fit_symbol := fun _ _ => stock.value_of_isOrdinary rfl
  fit_payload := stock.value_of_pending
  fit_function := fun _ => ⟨⟨0⟩, stock.method_user _ _⟩
  fit_core := fun _ _ => stock.value_of_isOrdinary rfl
  fit_birth := fun _ _ _ => stock.value_of_isOrdinary rfl
  fit_superclass := fun _ _ _ => stock.value_of_isOrdinary rfl
  fit_found := fun hs _ hfound => by
    obtain ⟨c, -, hresolve⟩ := Store.methodFor_ok_iff.1 hfound
    obtain ⟨-, -, -, -, hmethod⟩ := Store.resolve?_eq_some_iff.1 hresolve
    exact ⟨_, hs.defined hmethod⟩
  fit_variable := fun hs _ hvalue => hs.held (Store.holds_of_valueOf? hvalue)
  fit_ivar := fun hs _ hvalue => hs.held (.ivar hvalue)
  newString := fun _ hs => ⟨⟨hs.of_eq rfl rfl rfl rfl, trivial⟩, stock.value_of_isOrdinary rfl⟩
  newArray := fun hs helements => by
    refine ⟨⟨hs.write (fun value hvalue => ?_) rfl, trivial⟩, stock.value_of_isOrdinary rfl⟩
    rcases Store.holds_newArray hvalue with hmem | hold
    · exact .inl (helements value hmem)
    · exact .inr hold
  newException := fun _ hs _ _ =>
    ⟨⟨hs.of_eq rfl rfl rfl rfl, trivial⟩, stock.value_of_isOrdinary rfl⟩
  newPending := fun hs _ => ⟨hs.of_eq rfl rfl rfl rfl, trivial⟩
  allocate := fun hs _ hmade =>
    have h := hs.allocate hmade
    ⟨⟨h.1, trivial⟩, stock.value_of_isOrdinary h.2⟩
  ensureEigenclass := fun hs _ hmade =>
    ⟨⟨hs.ensureEigenclass hmade, trivial⟩, stock.value_of_isOrdinary rfl⟩
  makeFunction := fun hs _ hmade => by
    obtain ⟨-, rfl⟩ := Store.makeFunction_eq_ok hmade
    exact ⟨⟨hs.of_eq rfl rfl rfl rfl, trivial⟩, stock.value_of_isOrdinary rfl⟩
  assign := fun hs _ hvalue => ⟨hs.setVar hvalue, trivial⟩
  setIvar := fun hs _ hvalue => by
    refine ⟨hs.write (fun other hother => ?_) rfl, trivial⟩
    rcases Store.holds_setIvar hother with rfl | hold
    · exact .inl hvalue
    · exact .inr hold
  enter := fun hs _ hreceiver hargs => ⟨⟨hs.enter hreceiver hargs, trivial⟩, trivial⟩

/-! ### Two disciplines at once -/

/-- The rules of two disciplines. -/
def both (D E : Discipline) : Discipline where
  Inv s := D.Inv s ∧ E.Inv s
  Leads s t := D.Leads s t ∧ E.Leads s t
  Fit s value := D.Fit s value ∧ E.Fit s value
  FitMethod s method := D.FitMethod s method ∧ E.FitMethod s method
  FitScope s scope := D.FitScope s scope ∧ E.FitScope s scope

namespace Lawful

variable {D E : Discipline}

theorem to_both (h : D.To s t) (h' : E.To s t) : (D.both E).To s t :=
  ⟨⟨h.1, h'.1⟩, h.2, h'.2⟩

/-- What keeps to the rules of each keeps to those of both. -/
theorem both (hD : D.Lawful core) (hE : E.Lawful core) : (D.both E).Lawful core where
  refl := fun s => ⟨hD.refl s, hE.refl s⟩
  trans := fun h h' => ⟨hD.trans h.1 h'.1, hE.trans h.2 h'.2⟩
  fit_mono := fun h hv => ⟨hD.fit_mono h.1 hv.1, hE.fit_mono h.2 hv.2⟩
  method_mono := fun h hm => ⟨hD.method_mono h.1 hm.1, hE.method_mono h.2 hm.2⟩
  scope_mono := fun h hs => ⟨hD.scope_mono h.1 hs.1, hE.scope_mono h.2 hs.2⟩
  fit_nil := fun s => ⟨hD.fit_nil s, hE.fit_nil s⟩
  fit_bool := fun s b => ⟨hD.fit_bool s b, hE.fit_bool s b⟩
  fit_int := fun s n => ⟨hD.fit_int s n, hE.fit_int s n⟩
  fit_symbol := fun s name => ⟨hD.fit_symbol s name, hE.fit_symbol s name⟩
  fit_payload := fun h => ⟨hD.fit_payload h.1, hE.fit_payload h.2⟩
  fit_function := fun h => ⟨hD.fit_function h.1, hE.fit_function h.2⟩
  fit_core := fun hs hc => ⟨hD.fit_core hs.1 hc, hE.fit_core hs.2 hc⟩
  fit_birth := fun hs hv hc => ⟨hD.fit_birth hs.1 hv.1 hc, hE.fit_birth hs.2 hv.2 hc⟩
  fit_superclass := fun hs hc hp =>
    ⟨hD.fit_superclass hs.1 hc.1 hp, hE.fit_superclass hs.2 hc.2 hp⟩
  fit_found := fun hs hr hf => ⟨hD.fit_found hs.1 hr.1 hf, hE.fit_found hs.2 hr.2 hf⟩
  fit_variable := fun hs hscope hv =>
    ⟨hD.fit_variable hs.1 hscope.1 hv, hE.fit_variable hs.2 hscope.2 hv⟩
  fit_ivar := fun hs hr hv => ⟨hD.fit_ivar hs.1 hr.1 hv, hE.fit_ivar hs.2 hr.2 hv⟩
  newString := fun text hs =>
    have h := hD.newString text hs.1
    have h' := hE.newString text hs.2
    ⟨to_both h.1 h'.1, h.2, h'.2⟩
  newArray := fun hs ha =>
    have h := hD.newArray hs.1 fun value hmem => (ha value hmem).1
    have h' := hE.newArray hs.2 fun value hmem => (ha value hmem).2
    ⟨to_both h.1 h'.1, h.2, h'.2⟩
  newException := fun message hs hc hlayout =>
    have h := hD.newException message hs.1 hc.1 hlayout
    have h' := hE.newException message hs.2 hc.2 hlayout
    ⟨to_both h.1 h'.1, h.2, h'.2⟩
  newPending := fun hs hv => to_both (hD.newPending hs.1 hv.1) (hE.newPending hs.2 hv.2)
  allocate := fun hs hc hmade =>
    have h := hD.allocate hs.1 hc.1 hmade
    have h' := hE.allocate hs.2 hc.2 hmade
    ⟨to_both h.1 h'.1, h.2, h'.2⟩
  ensureEigenclass := fun hs hv hmade =>
    have h := hD.ensureEigenclass hs.1 hv.1 hmade
    have h' := hE.ensureEigenclass hs.2 hv.2 hmade
    ⟨to_both h.1 h'.1, h.2, h'.2⟩
  makeFunction := fun hs hscope hmade =>
    have h := hD.makeFunction hs.1 hscope.1 hmade
    have h' := hE.makeFunction hs.2 hscope.2 hmade
    ⟨to_both h.1 h'.1, h.2, h'.2⟩
  assign := fun hs hscope hv =>
    to_both (hD.assign hs.1 hscope.1 hv.1) (hE.assign hs.2 hscope.2 hv.2)
  setIvar := fun hs hr hv => to_both (hD.setIvar hs.1 hr.1 hv.1) (hE.setIvar hs.2 hr.2 hv.2)
  enter := fun hs hm hr ha =>
    have h := hD.enter hs.1 hm.1 (fun receiver hmem => (hr receiver hmem).1)
      fun arg hmem => (ha arg hmem).1
    have h' := hE.enter hs.2 hm.2 (fun receiver hmem => (hr receiver hmem).2)
      fun arg hmem => (ha arg hmem).2
    ⟨to_both h.1 h'.1, h.2, h'.2⟩

end Lawful

end Discipline

end ObjectModel
