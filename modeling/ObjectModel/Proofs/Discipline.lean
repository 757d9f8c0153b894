import ObjectModel.Run.Evaluator

/-!
# Disciplines

Much that holds of a run holds because every single operation in it keeps to some rules: which
values are passed and stored, which methods are found, how the store may change.  A discipline is
such a set of rules.  It is lawful if each operation that a run is made of keeps to it, and then
everything that is built from these operations does: kernel methods, sends, calls, and, with the
evaluator of program trees, whole programs.

The rules are about answers only: an action that has no answer, because its calls nest too deep,
keeps to everything.

## Main definitions

* `Discipline` — an invariant, an order of stores, and what is fit to take part.
* `Discipline.Keeps` — an action that keeps to the rules and answers as stated.
* `Discipline.Lawful` — every operation on the store keeps to the rules.
* `Discipline.Context`, `Discipline.HostObeys`, `Discipline.RunnerObeys` — so does what native
  methods are given, a host, an evaluator of bodies.

## Main results

* `Discipline.Keeps.bind` — actions that keep to the rules can be put one after the other.
* `Discipline.Lawful.kernel` — kernel methods keep to the rules.
* `Discipline.Lawful.perform`, `Discipline.Lawful.send`, `Discipline.Lawful.call`,
  `Discipline.Lawful.context` — so does a machine.
-/

namespace ObjectModel

/-- Rules for everything that takes part in a run. -/
structure Discipline where
  /-- What holds of the store between operations. -/
  Inv : Store → Prop
  /-- How a store may have changed after an operation. -/
  Leads : Store → Store → Prop
  /-- The values that may be passed and stored. -/
  Fit : Store → Value → Prop
  /-- The methods that may be found. -/
  FitMethod : Store → Method → Prop
  /-- The scopes in which trees may be evaluated. -/
  FitScope : Store → ScopeRef → Prop

namespace Discipline

variable {D : Discipline} {α β : Type}

/-- A change of the store that keeps to the rules. -/
def To (D : Discipline) (s t : Store) : Prop := D.Inv t ∧ D.Leads s t

/-- Every one of some values is fit. -/
def FitAll (D : Discipline) (s : Store) (values : List Value) : Prop :=
  ∀ value ∈ values, D.Fit s value

/-- What a message or a call may be answered with: a fit value, or a fault. -/
def Answer (D : Discipline) (s : Store) (value : Value) : Prop :=
  D.Fit s value ∨ value.isFault = true

/-- Begun in the store `s`, the action changes it by the rules, and `Q` holds of its answer. -/
def Keeps (D : Discipline) (s : Store) (action : Action α) (Q : Store → α → Prop) : Prop :=
  ∀ ⦃x : α⦄ ⦃t : Store⦄, action s = some (x, t) → D.To s t ∧ Q t x

/-! ### Laws -/

/-- Every operation on the store that a run is made of keeps to the rules. -/
structure Lawful (D : Discipline) (core : Core) : Prop where
  refl : ∀ s, D.Leads s s
  trans : ∀ {s t u}, D.Leads s t → D.Leads t u → D.Leads s u
  fit_mono : ∀ {s t value}, D.Leads s t → D.Fit s value → D.Fit t value
  method_mono : ∀ {s t method}, D.Leads s t → D.FitMethod s method → D.FitMethod t method
  scope_mono : ∀ {s t scope}, D.Leads s t → D.FitScope s scope → D.FitScope t scope
  fit_nil : ∀ s, D.Fit s .nil
  fit_bool : ∀ s b, D.Fit s (.bool b)
  fit_int : ∀ s n, D.Fit s (.int n)
  fit_symbol : ∀ s name, D.Fit s (.symbol name)
  fit_payload : ∀ {s serial payload}, D.Fit s (.pending serial payload) → D.Fit s payload
  fit_function : ∀ {s closure}, D.Fit s (.function closure) → D.FitMethod s (.user closure)
  fit_core : ∀ {s name c}, D.Inv s → core.find? name = some c → D.Fit s (.cls c)
  fit_birth : ∀ {s value c}, D.Inv s → D.Fit s value → s.birthClass? core value = some c →
    D.Fit s (.cls c)
  fit_superclass : ∀ {s c parent}, D.Inv s → D.Fit s (.cls c) → s.superclass? c = some parent →
    D.Fit s (.cls parent)
  fit_found : ∀ {s receiver name found}, D.Inv s → D.Fit s receiver →
    s.methodFor core receiver name = .ok found → D.FitMethod s found.method
  fit_variable : ∀ {s scope name value}, D.Inv s → D.FitScope s scope →
    s.valueOf? scope name = some value → D.Fit s value
  fit_ivar : ∀ {s ref name value}, D.Inv s → D.Fit s (.object ref) →
    s.ivar? ref name = some value → D.Fit s value
  newString : ∀ {s} text, D.Inv s →
    D.To s (s.newString text).2 ∧ D.Fit (s.newString text).2 (s.newString text).1
  newArray : ∀ {s elements}, D.Inv s → D.FitAll s elements →
    D.To s (s.newArray elements).2 ∧ D.Fit (s.newArray elements).2 (s.newArray elements).1
  newException : ∀ {s c} message, D.Inv s → D.Fit s (.cls c) →
    (s.classes.read c).layout? = some .exception → D.To s (s.newException c message).2 ∧
      D.Fit (s.newException c message).2 (s.newException c message).1
  newPending : ∀ {s value}, D.Inv s → D.Fit s value → D.To s (s.newPending value).2
  allocate : ∀ {s t c value}, D.Inv s → D.Fit s (.cls c) → s.allocate c = .ok (value, t) →
    D.To s t ∧ D.Fit t value
  ensureEigenclass : ∀ {s t value e}, D.Inv s → D.Fit s value →
    s.ensureEigenclass core value = .ok (e, t) → D.To s t ∧ D.Fit t (.cls e)
  makeFunction : ∀ {s t params body scope closure}, D.Inv s → D.FitScope s scope →
    s.makeFunction params body scope = .ok (closure, t) →
      D.To s t ∧ D.Fit t (.function closure)
  assign : ∀ {s scope name value}, D.Inv s → D.FitScope s scope → D.Fit s value →
    D.To s (s.assign scope name value)
  setIvar : ∀ {s ref name value}, D.Inv s → D.Fit s (.object ref) → D.Fit s value →
    D.To s (s.setIvar ref name value)
  enter : ∀ {s closure receiver? args}, D.Inv s → D.FitMethod s (.user closure) →
    (∀ receiver ∈ receiver?, D.Fit s receiver) → D.FitAll s args →
      D.To s (s.enter closure receiver? args).2 ∧
        D.FitScope (s.enter closure receiver? args).2 (s.enter closure receiver? args).1

namespace Lawful

variable {core : Core}

theorem to_refl (hD : D.Lawful core) {s : Store} (hs : D.Inv s) : D.To s s := ⟨hs, hD.refl s⟩

theorem to_trans (hD : D.Lawful core) {s t u : Store} (h : D.To s t) (h' : D.To t u) :
    D.To s u :=
  ⟨h'.1, hD.trans h.2 h'.2⟩

theorem fitAll_mono (hD : D.Lawful core) {s t : Store} {values : List Value}
    (h : D.Leads s t) (hv : D.FitAll s values) : D.FitAll t values :=
  fun value hmem => hD.fit_mono h (hv value hmem)

/-- What an early return carries is fit, however often it is wrapped. -/
theorem fit_payload_payload (hD : D.Lawful core) {s : Store} {value : Value}
    (h : D.Fit s value) : D.Fit s value.payload := by
  induction value with
  | pending serial payload ih => exact ih (hD.fit_payload h)
  | _ => exact h

theorem fit_selfValue (hD : D.Lawful core) {s : Store} {scope : ScopeRef} (hs : D.Inv s)
    (hscope : D.FitScope s scope) : D.Fit s (s.selfValue scope) := by
  rw [Store.selfValue]
  cases h : s.valueOf? scope "self" with
  | none => exact hD.fit_nil s
  | some value => exact hD.fit_variable hs hscope h

end Lawful

/-! ### Putting actions together -/

namespace Keeps

variable {core : Core} {s : Store} {Q : Store → α → Prop} {Q' : Store → β → Prop}

theorem pure (hD : D.Lawful core) (hs : D.Inv s) {x : α} (hx : Q s x) :
    D.Keeps s (Pure.pure x) Q := by
  intro y t h
  cases h
  exact ⟨hD.to_refl hs, hx⟩

/-- One action after the other, if the second keeps to the rules wherever the first ends. -/
theorem bind (hD : D.Lawful core) {action : Action α} {next : α → Action β}
    (h : D.Keeps s action Q)
    (hnext : ∀ ⦃t x⦄, D.To s t → Q t x → D.Keeps t (next x) Q') :
    D.Keeps s (action >>= next) Q' := by
  intro y u hrun
  obtain ⟨⟨x, t⟩, hx, hy⟩ := Option.bind_eq_some_iff.1 hrun
  obtain ⟨hto, hQ⟩ := h hx
  obtain ⟨hto', hQ'⟩ := hnext hto hQ hy
  exact ⟨hD.to_trans hto hto', hQ'⟩

/-- Reading the store changes nothing. -/
theorem get_bind {next : Store → Action β} (h : D.Keeps s (next s) Q') :
    D.Keeps s (get >>= next) Q' := h

/-- A single change of the store. -/
theorem change {f : Store → α × Store} (hto : D.To s (f s).2) (hQ : Q (f s).2 (f s).1) :
    D.Keeps s (modifyGet f) Q := by
  intro x t h
  have hf : f s = (x, t) := Option.some.inj h
  rw [hf] at hto hQ
  exact ⟨hto, hQ⟩

/-- An operation that may fail, in which case nothing happens. -/
theorem attempt (hD : D.Lawful core) (hs : D.Inv s) {ε : Type}
    {operation : Store → Except ε (α × Store)} {Q : Store → Except ε α → Prop}
    (hok : ∀ ⦃x t⦄, operation s = .ok (x, t) → D.To s t ∧ Q t (.ok x))
    (herror : ∀ ⦃e⦄, operation s = .error e → Q s (.error e)) :
    D.Keeps s (Action.attempt operation) Q := by
  intro answer t h
  rw [Action.attempt] at h
  split at h
  · next x u heq =>
    cases h
    exact hok heq
  · next e heq =>
    cases h
    exact ⟨hD.to_refl hs, herror heq⟩

theorem exhausted : D.Keeps s (Action.exhausted : Action α) Q := by
  intro x t h
  cases h

theorem mono {action : Action α} {Q₁ Q₂ : Store → α → Prop} (h : D.Keeps s action Q₁)
    (himp : ∀ ⦃t x⦄, Q₁ t x → Q₂ t x) : D.Keeps s action Q₂ :=
  fun _ _ hrun => ⟨(h hrun).1, himp (h hrun).2⟩

end Keeps

/-! ### Machines -/

/-- What native methods are given keeps to the rules: so does each message and each call. -/
structure Context (D : Discipline) (core : Core) (ctx : NativeContext) : Prop where
  core_eq : ctx.core = core
  send : ∀ {s receiver name args}, D.Inv s → D.Fit s receiver → D.FitAll s args →
    D.Keeps s (ctx.send receiver name args) D.Answer
  call : ∀ {s callee args}, D.Inv s → D.Fit s callee → D.FitAll s args →
    D.Keeps s (ctx.call callee args) D.Answer

/-- The native functions of a host that can be reached by the rules keep to them. -/
structure HostObeys (D : Discipline) (core : Core) (host : Host) : Prop where
  method : ∀ {ctx s entry name arity receiver args}, D.Context core ctx → D.Inv s →
    D.FitMethod s (.native (.host entry name arity)) → D.Fit s receiver → D.FitAll s args →
      D.Keeps s (host.method entry ctx receiver args) D.Answer
  builtin : ∀ {s entry name args}, D.Inv s → D.Fit s (.builtin entry name) → D.FitAll s args →
    D.Keeps s (host.builtin entry args) D.Answer

/-- An evaluator of bodies keeps to the rules.  Its answer may be an early return that has not
arrived yet; what it carries is fit. -/
def RunnerObeys (D : Discipline) (runner : BodyRunner) : Prop :=
  ∀ ⦃s closure receiver? args⦄, D.Inv s → D.FitMethod s (.user closure) →
    (∀ receiver ∈ receiver?, D.Fit s receiver) → D.FitAll s args →
      D.Keeps s (runner closure receiver? args) fun t value => D.Answer t value.payload

namespace Lawful

variable {core : Core} {ctx : NativeContext} {s : Store}

/-! ### Kernel methods -/

/-- A fault is an answer, whatever the rules. -/
theorem keeps_fault (hD : D.Lawful core) (hs : D.Inv s) (fault : Fault) :
    D.Keeps s (pure (.fault fault)) D.Answer :=
  .pure hD hs (.inr rfl)

/-- So is a value that is fit. -/
theorem keeps_fit (hD : D.Lawful core) (hs : D.Inv s) {value : Value} (hv : D.Fit s value) :
    D.Keeps s (pure value) D.Answer :=
  .pure hD hs (.inl hv)

theorem keeps_newString (hD : D.Lawful core) (hs : D.Inv s) (text : Store → String) :
    D.Keeps s (modifyGet fun s => s.newString (text s)) D.Answer := by
  obtain ⟨hto, hfit⟩ := hD.newString (text s) hs
  exact .change hto (.inl hfit)

theorem keeps_symbols (hD : D.Lawful core) (hs : D.Inv s) (names : List String) :
    D.Keeps s (Kernel.symbols names) D.Answer := by
  have hnames : D.FitAll s (names.map .symbol) := by
    intro value hvalue
    obtain ⟨name, -, rfl⟩ := List.mem_map.1 hvalue
    exact hD.fit_symbol s name
  obtain ⟨hto, hfit⟩ := hD.newArray hs hnames
  exact .change hto (.inl hfit)

theorem keeps_instantiate (hD : D.Lawful core) (hctx : D.Context core ctx) (hs : D.Inv s)
    {receiver : Value} {args : List Value} (hreceiver : D.Fit s receiver)
    (hargs : D.FitAll s args) :
    D.Keeps s (Kernel.instantiate ctx receiver args) D.Answer := by
  unfold Kernel.instantiate
  split
  · next c =>
    refine .get_bind ?_
    split
    · next hlayout =>
      -- the message is the argument, or the name of the class
      have made : ∀ message, D.Keeps s (modifyGet fun s => s.newException c message) D.Answer := by
        intro message
        obtain ⟨hto, hfit⟩ := hD.newException message hs hreceiver hlayout
        exact .change hto (.inl hfit)
      split
      · exact made _
      · split
        · exact made _
        · exact hD.keeps_fault hs _
      · exact hD.keeps_fault hs _
    · refine .bind hD (Q := fun t made => ∀ value, made = .ok value → D.Fit t value) ?_ ?_
      · refine .attempt hD hs ?_ ?_
        · intro value t hmade
          obtain ⟨hto, hfit⟩ := hD.allocate hs hreceiver hmade
          exact ⟨hto, fun _ h => by cases h; exact hfit⟩
        · intro _ _ _ h
          cases h
      · intro t made hto hmade
        split
        · exact hD.keeps_fault hto.1 _
        · next value =>
          have hvalue := hmade value rfl
          refine .bind hD (hctx.send hto.1 hvalue (hD.fitAll_mono hto.2 hargs)) ?_
          -- a fault of the initialiser is the answer, else the instance, which is still fit
          intro u initialized hto' hanswer
          refine .pure hD hto'.1 ?_
          split
          · exact hanswer
          · exact .inl (hD.fit_mono hto'.2 hvalue)
  · exact .get_bind (hD.keeps_fault hs _)

/-- Kernel methods keep to the rules. -/
theorem kernel (hD : D.Lawful core) (hctx : D.Context core ctx) (hs : D.Inv s)
    (method : KernelMethod) {receiver : Value} {args : List Value}
    (hreceiver : D.Fit s receiver) (hargs : D.FitAll s args) :
    D.Keeps s (method.run ctx receiver args) D.Answer := by
  have hcore := hctx.core_eq
  cases method with
  | setUp => exact hD.keeps_fit hs (hD.fit_nil s)
  | equal => exact .get_bind (hD.keeps_fit hs (hD.fit_bool s _))
  | identical => exact hD.keeps_fit hs (hD.fit_bool s _)
  | classOf =>
    refine .get_bind ?_
    simp only [hcore]
    split
    · next hbirth => exact hD.keeps_fit hs (hD.fit_birth hs hreceiver hbirth)
    · exact hD.keeps_fit hs (hD.fit_nil s)
  | inspect => exact hD.keeps_newString hs _
  | respondTo =>
    refine .get_bind ?_
    split
    · exact hD.keeps_fit hs (hD.fit_bool s _)
    · exact hD.keeps_fit hs (hD.fit_bool s _)
    · exact hD.keeps_fault hs _
  | singletonClass =>
    refine .bind hD (Q := fun t made => ∀ e, made = .ok e → D.Fit t (.cls e)) ?_ ?_
    · refine .attempt hD hs ?_ ?_
      · intro e t hmade
        rw [hcore] at hmade
        obtain ⟨hto, hfit⟩ := hD.ensureEigenclass hs hreceiver hmade
        exact ⟨hto, fun _ h => by cases h; exact hfit⟩
      · intro _ _ _ h
        cases h
    · intro t made hto hmade
      split
      · next e => exact hD.keeps_fit hto.1 (hmade e rfl)
      · exact hD.keeps_fault hto.1 _
  | singletonMethods => exact .get_bind (hD.keeps_symbols hs _)
  | moduleName =>
    simp only [KernelMethod.run, Kernel.nameOf]
    split
    · refine .get_bind ?_
      split
      · exact hD.keeps_fit hs (hD.fit_nil s)
      · exact hD.keeps_newString hs _
    · exact .get_bind (hD.keeps_fault hs _)
  | instanceMethods =>
    simp only [KernelMethod.run]
    split
    · exact .get_bind (hD.keeps_symbols hs _)
    · exact .get_bind (hD.keeps_fault hs _)
  | new => exact hD.keeps_instantiate hctx hs hreceiver hargs
  | superclass =>
    simp only [KernelMethod.run]
    split
    · refine .get_bind ?_
      split
      · next hparent => exact hD.keeps_fit hs (hD.fit_superclass hs hreceiver hparent)
      · exact hD.keeps_fit hs (hD.fit_nil s)
    · exact .get_bind (hD.keeps_fault hs _)
  | message =>
    simp only [KernelMethod.run]
    split
    · exact hD.keeps_newString hs _
    · exact .get_bind (hD.keeps_fault hs _)

/-! ### Messages and calls -/

section

variable {m : Machine} (hD : D.Lawful m.core) (hhost : D.HostObeys m.core m.host)
  (hrunner : D.RunnerObeys m.runner)

include hD hrunner in
theorem runBody (hs : D.Inv s) {closure : Closure} {receiver? : Option Value}
    {args : List Value} (hclosure : D.FitMethod s (.user closure))
    (hreceiver : ∀ receiver ∈ receiver?, D.Fit s receiver) (hargs : D.FitAll s args) :
    D.Keeps s (m.runBody closure receiver? args) D.Answer :=
  .bind hD (hrunner hs hclosure hreceiver hargs) fun _ _ hto hanswer => .pure hD hto.1 hanswer

include hD hhost hrunner

/-- A method that may be found can be run. -/
theorem perform (hctx : D.Context m.core ctx) (hs : D.Inv s) {receiver : Value} {name : String}
    {method : Method} {args : List Value} (hreceiver : D.Fit s receiver)
    (hmethod : D.FitMethod s method) (hargs : D.FitAll s args) :
    D.Keeps s (m.perform ctx receiver name method args) D.Answer := by
  have hrun : D.Keeps s (Machine.perform.run m ctx receiver method args) D.Answer := by
    cases method with
    | native native =>
      cases native with
      | kernel home method => exact hD.kernel hctx hs method hreceiver hargs
      | host entry name arity => exact hhost.method hctx hs hmethod hreceiver hargs
    | user closure =>
      refine hD.runBody hrunner hs hmethod ?_ hargs
      rintro _ ⟨⟩
      exact hreceiver
  cases hcount : method.arity.admits args.length with
  | true =>
    rw [Machine.perform_of_admits hcount]
    exact hrun
  | false =>
    obtain ⟨expected, harity, hne⟩ := Arity.admits_eq_false_iff.1 hcount
    rw [Machine.perform_of_miscounted harity hne]
    exact hD.keeps_fault hs _

/-- What is looked up for a message is looked up for the payload of its receiver. -/
theorem send (hctx : D.Context m.core ctx) (hs : D.Inv s) {receiver : Value} {name : String}
    {args : List Value} (hreceiver : D.Fit s receiver) (hargs : D.FitAll s args) :
    D.Keeps s (m.send ctx receiver name args) D.Answer := by
  have hpayload := hD.fit_payload_payload hreceiver
  unfold Machine.send
  split
  -- a fault answers every message with itself, so there is nothing to look up
  · exact hD.keeps_fault hs _
  · refine .get_bind ?_
    split
    · next found hfound =>
      exact hD.perform hhost hrunner hctx hs hpayload (hD.fit_found hs hpayload hfound) hargs
    · exact hD.keeps_fault hs _

theorem call (hs : D.Inv s) {callee : Value} {args : List Value} (hcallee : D.Fit s callee)
    (hargs : D.FitAll s args) : D.Keeps s (m.call callee args) D.Answer := by
  have hpayload := hD.fit_payload_payload hcallee
  unfold Machine.call
  split
  · next closure heq =>
    rw [heq] at hpayload
    split
    · refine hD.runBody hrunner hs (hD.fit_function hpayload) ?_ hargs
      rintro _ ⟨⟩
    · exact hD.keeps_fault hs _
  · next entry name heq =>
    rw [heq] at hpayload
    exact hhost.builtin hs hpayload hargs
  · exact hD.keeps_fault hs _
  · exact .get_bind (hD.keeps_fault hs _)

/-- What a machine gives to native methods keeps to the rules, however deep messages nest. -/
theorem context (depth : Nat) : D.Context m.core (m.context depth) := by
  induction depth with
  | zero => exact ⟨rfl, fun _ _ _ => .exhausted, fun _ _ _ => .exhausted⟩
  | succ depth ih =>
    exact ⟨rfl, fun hs hr ha => hD.send hhost hrunner ih hs hr ha,
      fun hs hc ha => hD.call hhost hrunner hs hc ha⟩

end

end Lawful

end Discipline

end ObjectModel
