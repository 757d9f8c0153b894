import ObjectModel.Proofs.Frame
import ObjectModel.Proofs.Sound
import ObjectModel.Proofs.Stock

/-!
# Events are transient

An early return and a fault are values only as long as they are on their way.  In a program whose
native methods are those of the kernel and which has no native functions, none of them is ever
stored, bound or passed: an expression has a value that is no event or ends with a fault, a return
ends its own body and nothing else, and a program never answers an early return.

A store in which this could fail is one that holds an event already, or a function of the host.

## Main definitions

* `Store.EventFree`, `Store.BuiltinFree`, `Store.KernelNatives` — the stores that programs of this
  sort begin with.
* `Discipline.transient` — the rule that no event is stored, bound or passed.

## Main results

* `Discipline.transient_lawful` — every operation on the store keeps to the rule.
* `Machine.runProgram_transient` — events are transient in the whole course of a program.
-/

namespace ObjectModel

variable {core : Core} {host : Host} {s t : Store}

namespace Store

/-- No element of an array, no instance variable and no binding is an event in flight. -/
def EventFree (s : Store) : Prop := ∀ value, s.Holds value → value.inFlight = false

/-- None of them is a function of the host. -/
def BuiltinFree (s : Store) : Prop := ∀ entry name, ¬ s.Holds (.builtin entry name)

/-- Every native method that a class has is a method of the kernel. -/
def KernelNatives (s : Store) : Prop :=
  ∀ c name native, s.localMethod? c name = some (.native native) →
    ∃ home method, native = .kernel home method

end Store

/-- Whether a method is no method of the host. -/
def Method.isInternal : Method → Bool
  | .native (.host _ _ _) => false
  | _ => true

namespace Store

/-- What programs of this sort keep: whatever is held is ordinary, and whatever is defined is a
method of the kernel or of the user. -/
structure Ordinary (s : Store) : Prop where
  held : ∀ ⦃value : Value⦄, s.Holds value → value.isOrdinary = true
  defined : ∀ ⦃c : ClassRef⦄ ⦃name : String⦄ ⦃method : Method⦄,
    s.localMethod? c name = some method → method.isInternal = true

theorem ordinary_iff : s.Ordinary ↔ s.EventFree ∧ s.BuiltinFree ∧ s.KernelNatives := by
  constructor
  · intro h
    refine ⟨fun value hvalue => ?_, fun entry name hheld => ?_, fun c name native hmethod => ?_⟩
    · have hordinary := h.held hvalue
      cases value with
      | pending | fault => cases hordinary
      | _ => rfl
    · have hordinary := h.held hheld
      cases hordinary
    · have hinternal := h.defined hmethod
      cases native with
      | kernel home method => exact ⟨home, method, rfl⟩
      | host => cases hinternal
  · rintro ⟨hevents, hbuiltins, hnatives⟩
    refine ⟨fun value hvalue => ?_, fun c name method hmethod => ?_⟩
    · have hinFlight := hevents value hvalue
      cases value with
      | builtin entry name => exact absurd hvalue (hbuiltins entry name)
      | pending | fault => cases hinFlight
      | _ => rfl
    · cases method with
      | native native =>
        obtain ⟨home, method, rfl⟩ := hnatives c name native hmethod
        rfl
      | user => rfl

end Store

/-- The stock of ordinary values and internal methods. -/
def Stock.ordinary : Stock where
  value v := v.isOrdinary = true
  method _ method := method.isInternal = true
  value_of_isOrdinary := id
  value_of_pending := nofun
  method_user := fun _ _ => rfl

namespace Store

theorem stocked_ordinary_iff : s.Stocked .ordinary ↔ s.Ordinary :=
  ⟨fun h => ⟨h.held, h.defined⟩, fun h => ⟨h.held, h.defined⟩⟩

/-- A write keeps a store ordinary if it adds only ordinary values and leaves the methods alone. -/
theorem Ordinary.write (hs : s.Ordinary)
    (hheld : ∀ ⦃value : Value⦄, t.Holds value → value.isOrdinary = true ∨ s.Holds value)
    (hclasses : t.classes = s.classes) : t.Ordinary :=
  stocked_ordinary_iff.1 ((stocked_ordinary_iff.2 hs).write hheld hclasses)

end Store

/-- Only ordinary values are stored and passed, and only internal methods are found. -/
def Discipline.transient : Discipline where
  Inv := Store.Ordinary
  Leads _ _ := True
  Fit _ value := value.isOrdinary = true
  FitMethod _ method := method.isInternal = true
  FitScope _ _ := True

/-- It is the rule of that stock. -/
theorem Discipline.stocking_ordinary : stocking .ordinary = transient := by
  have hinv : Store.Stocked .ordinary = Store.Ordinary :=
    funext fun s => propext Store.stocked_ordinary_iff
  rw [stocking, transient, hinv]
  simp only [Stock.ordinary, exists_const]

theorem Discipline.transient_lawful (core : Core) : transient.Lawful core :=
  stocking_ordinary ▸ stocking_lawful .ordinary core

/-- The rule finds no use for native functions of a host. -/
theorem Discipline.transient_host (core : Core) (host : Host) : transient.HostObeys core host where
  method := fun _ _ hmethod _ _ => by cases hmethod
  builtin := fun _ hbuiltin _ => by cases hbuiltin

theorem Value.inFlight_of_isOrdinary {value : Value} (h : value.isOrdinary = true) :
    value.inFlight = false := by
  cases value with
  | builtin | pending | fault => cases h
  | _ => rfl

namespace Frame

variable {f : Frame}

/-- An expression that begins by the rule has a value that is no event, or ends with a fault. -/
theorem expr_outcome (hf : f.Admitted .transient) (hfinishes : f.Finishes core host)
    {scope : ScopeRef} {e : Expr} (htask : f.task = .expr scope e) :
    ∃ outcome t, Expr.eval (f.context core host) scope e f.store = some (outcome, t) ∧
      ((∃ value, outcome = .ok value ∧ value.inFlight = false) ∨
        ∃ fault, outcome = .error (.fault fault)) := by
  obtain ⟨task, calls, natives, store⟩ := f
  cases htask
  obtain ⟨⟨outcome, t⟩, heval⟩ := Option.isSome_iff_exists.1 hfinishes
  have hD := Discipline.transient_lawful core
  have hctx := lawful_context hD (Discipline.transient_host core host)
    ⟨.expr scope e, calls, natives, store⟩
  obtain ⟨-, hends⟩ := hD.expr hctx hf.1 hf.2 e heval
  refine ⟨outcome, t, heval, ?_⟩
  match outcome, hends with
  | .ok value, hvalue => exact .inl ⟨value, rfl, Value.inFlight_of_isOrdinary hvalue⟩
  | .error (.fault fault), _ => exact .inr ⟨fault, rfl⟩
  -- an early return would have been met as a value
  | .error (.ret value), ⟨serial, hpending⟩ => cases hpending

/-- A body that begins by the rule gets no event, neither for the receiver nor as an argument. -/
theorem body_arguments (hf : f.Admitted .transient) {closure : Closure} {receiver? : Option Value}
    {args : List Value} (htask : f.task = .body closure receiver? args) :
    (∀ receiver ∈ receiver?, receiver.inFlight = false) ∧ ∀ arg ∈ args, arg.inFlight = false := by
  obtain ⟨task, calls, natives, store⟩ := f
  cases htask
  obtain ⟨-, -, hreceiver, hargs⟩ := hf
  exact ⟨fun receiver h => Value.inFlight_of_isOrdinary (hreceiver receiver h),
    fun arg h => Value.inFlight_of_isOrdinary (hargs arg h)⟩

end Frame

/-- **Events are transient.**  Let no event and no function of the host be held by a store, and let
all its native methods be those of the kernel.  After a program that comes to an end, no event is
held either, and its answer is no early return.  In its course every expression comes to a value
that is no event or ends with a fault, and no body is run on an event, neither as the receiver nor
as an argument. -/
theorem Machine.runProgram_transient {depth : Nat} {scope : ScopeRef} {block : Block}
    {answer : Value} (hevents : s.EventFree) (hbuiltins : s.BuiltinFree)
    (hnatives : s.KernelNatives)
    (hrun : Machine.runProgram core host depth scope block s = some (answer, t)) :
    t.EventFree ∧ answer.isPending = false ∧
      ∀ f, Frame.During core host (.program depth scope block s) f →
        (∀ scope' e, f.task = .expr scope' e →
          ∃ outcome u, Expr.eval (f.context core host) scope' e f.store = some (outcome, u) ∧
            ((∃ value, outcome = .ok value ∧ value.inFlight = false) ∨
              ∃ fault, outcome = .error (.fault fault))) ∧
        (∀ closure receiver? args, f.task = .body closure receiver? args →
          (∀ receiver ∈ receiver?, receiver.inFlight = false) ∧
            ∀ arg ∈ args, arg.inFlight = false) := by
  have hD := Discipline.transient_lawful core
  have hhost := Discipline.transient_host core host
  have hs : s.Ordinary := Store.ordinary_iff.2 ⟨hevents, hbuiltins, hnatives⟩
  have hscope : Discipline.transient.FitScope s scope := trivial
  obtain ⟨⟨ht, -⟩, hanswer⟩ := hD.runProgram hhost depth hs hscope block hrun
  refine ⟨(Store.ordinary_iff.1 ht).1, ?_, fun f hduring => ?_⟩
  · rcases hanswer with hordinary | hfault
    · cases answer with
      | pending => cases hordinary
      | _ => rfl
    · cases answer with
      | pending => cases hfault
      | _ => rfl
  · have hadmitted : (Frame.program depth scope block s).Admitted .transient :=
      ⟨hs, trivial, rfl⟩
    have hfinishes : (Frame.program depth scope block s).Finishes core host :=
      Frame.isSome_of_bind (Option.isSome_iff_exists.2 ⟨_, hrun⟩)
    have hf := hduring.admitted hD hhost hadmitted
    exact ⟨fun scope' e htask => Frame.expr_outcome hf (hduring.finishes hfinishes) htask,
      fun closure receiver? args htask => Frame.body_arguments hf htask⟩

/-- The built-in hierarchy and one empty scope. -/
def Store.withScope : Store := (Store.initial.newScope none).2

theorem Store.ordinary_initial : Store.initial.Ordinary where
  held := fun value hvalue => absurd hvalue (not_holds_initial value)
  defined := fun c name method hmethod => by
    obtain ⟨home, kernelMethod, rfl⟩ := localMethod?_initial hmethod
    rfl

theorem Store.ordinary_withScope : withScope.Ordinary :=
  ordinary_initial.write (fun _ hvalue => .inr (holds_newScope hvalue)) rfl

/-- A program that makes a function with an early return in its body, and calls it. -/
def earlyReturn : Block :=
  [.expr (.assign (.ident "f") (.fn ["x"] [.ret (.ident "x"), .expr .nil])),
    .expr (.call (.ident "f") [.int 1])]

/-- Such a return ends the function and not the program. -/
theorem runProgram_transient_earlyReturn :
    Store.withScope.EventFree ∧ Store.withScope.BuiltinFree ∧ Store.withScope.KernelNatives ∧
      ∃ answer t, Machine.runProgram Core.initial ⟨fun _ _ _ _ => pure .nil, fun _ _ => pure .nil⟩
          2 ⟨0⟩ earlyReturn Store.withScope = some (answer, t) ∧
        t.EventFree ∧ answer.isPending = false := by
  obtain ⟨hevents, hbuiltins, hnatives⟩ := Store.ordinary_iff.1 Store.ordinary_withScope
  have hfinishes : (Machine.runProgram Core.initial
      ⟨fun _ _ _ _ => pure .nil, fun _ _ => pure .nil⟩ 2 ⟨0⟩ earlyReturn
        Store.withScope).isSome = true := by decide +kernel
  obtain ⟨⟨answer, t⟩, hrun⟩ := Option.isSome_iff_exists.1 hfinishes
  obtain ⟨ht, hanswer, -⟩ := Machine.runProgram_transient hevents hbuiltins hnatives hrun
  exact ⟨hevents, hbuiltins, hnatives, answer, t, hrun, ht, hanswer⟩

end ObjectModel
