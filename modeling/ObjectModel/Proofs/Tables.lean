import Mathlib.Data.List.Induction
import Mathlib.Data.List.Perm.Basic
import ObjectModel.Proofs.Reachable

/-!
# What method tables hold

A class has a table of its own methods, and an object with methods of its own has the table of its
eigenclass.  Whatever has been done to the store, such a table holds under a name the method that
was defined last under it, and nothing under a name that was never defined.  The names are listed in
ascending order, each once, whatever the order in which the table was filled or would be gone
through.

A history is a record of all definitions that led to a store, those of the built-in methods first.
Every other operation leaves the tables alone, and whatever class-object it makes is made without
methods.

## Main definitions

* `Definition`, `Store.define` — a method, a class and a name for it, and its definition.
* `Definition.last?` — what a record has last for a class and a name.
* `History` — a record of the definitions that led to a store.

## Main results

* `Step.tables` — an operation defines a method, or it leaves all tables alone.
* `Steps.history` — a record can be continued, whatever is done.
* `History.localMethod?_eq` — a table holds what was defined last.
* `Reachable.tables_by_history` — method tables as maps with sorted listing.
-/

namespace ObjectModel

variable {strict : Bool} {s t : Store} {c : ClassRef} {name : String}

/-- The names of a table are its keys in order, in whatever order the keys are gone through. -/
theorem NameTable.mergeSort_eq_names {α : Type} (table : NameTable α) {keys : List String}
    (hnodup : keys.Nodup) (hkeys : ∀ name, name ∈ keys ↔ name ∈ table.names) :
    keys.mergeSort = table.names := by
  have hperm : keys.mergeSort.Perm table.names := by
    have hdistinct : table.names.Nodup := table.names_nodup
    exact (List.mergeSort_perm keys _).trans ((List.perm_ext_iff_of_nodup hnodup hdistinct).2 hkeys)
  have hsorted : keys.mergeSort.Pairwise fun a b => decide (a ≤ b) = true := by
    apply List.pairwise_mergeSort
    · intro a b c hab hbc
      exact decide_eq_true (String.le_trans (of_decide_eq_true hab) (of_decide_eq_true hbc))
    · intro a b
      simpa using String.le_total a b
  have hnames : table.names.Pairwise fun a b => decide (a ≤ b) = true := by
    refine table.names_pairwise.imp fun {a b} hlt => ?_
    exact decide_eq_true (String.not_lt.1 (String.lt_asymm hlt))
  refine hperm.eq_of_pairwise ?_ hsorted hnames
  intro a b _ _ hab hba
  exact String.le_antisymm (of_decide_eq_true hab) (of_decide_eq_true hba)

/-- A method that is defined, with the class and the name that it is defined for. -/
structure Definition where
  cls : ClassRef
  name : String
  method : Method

/-- Makes a definition. -/
def Store.define (s : Store) (d : Definition) : Store := s.defineMethod d.cls d.name d.method

namespace Definition

variable {log : List Definition}

/-- The method that is defined last for a class and a name. -/
def last? (log : List Definition) (c : ClassRef) (name : String) : Option Method :=
  (log.reverse.find? fun d => d.cls = c ∧ d.name = name).map Definition.method

/-- Another definition counts for its own class and name alone. -/
theorem last?_concat (log : List Definition) (d : Definition) (c : ClassRef) (name : String) :
    last? (log ++ [d]) c name =
      if c = d.cls ∧ name = d.name then some d.method else last? log c name := by
  by_cases h : c = d.cls ∧ name = d.name
  · obtain ⟨rfl, rfl⟩ := h
    simp [last?]
  · have hne : ¬ (d.cls = c ∧ d.name = name) := fun h' => h ⟨h'.1.symm, h'.2.symm⟩
    simp [last?, h, hne]

/-- Something is last for a class and a name if anything is defined for them. -/
theorem last?_isSome_iff :
    (last? log c name).isSome ↔ ∃ d ∈ log, d.cls = c ∧ d.name = name := by
  simp [last?]

end Definition

open Definition

/-! ### The built-in methods -/

/-- The definitions of the kernel methods. -/
def Kernel.definitions (core : Core) : List Definition :=
  (Kernel.methods core).map fun entry =>
    ⟨entry.1, entry.2.name, .native (.kernel entry.1 entry.2)⟩

namespace Store

theorem localMethod?_define (s : Store) {d : Definition} (h : d.cls.index < s.classes.size)
    (c : ClassRef) (name : String) : (s.define d).localMethod? c name =
      if c = d.cls ∧ name = d.name then some d.method else s.localMethod? c name :=
  s.localMethod?_defineMethod d.name d.method h c name

theorem size_classes_define (s : Store) (d : Definition) :
    (s.define d).classes.size = s.classes.size :=
  s.classes.size_modify _ _

/-- After some definitions in a row a table holds what was defined last, or what it held before. -/
theorem localMethod?_foldl_define {log : List Definition}
    (h : ∀ d ∈ log, d.cls.index < s.classes.size) (c : ClassRef) (name : String) :
    (log.foldl define s).localMethod? c name = (last? log c name).or (s.localMethod? c name) ∧
      (log.foldl define s).classes.size = s.classes.size := by
  -- the last definition decides first
  induction log using List.reverseRecOn with
  | nil => exact ⟨rfl, rfl⟩
  | append_singleton log d ih =>
    obtain ⟨hlocal, hsize⟩ := ih fun d' hd' => h d' (List.mem_append_left _ hd')
    have hin : d.cls.index < (log.foldl define s).classes.size := by
      rw [hsize]
      exact h d List.mem_concat_self
    rw [List.foldl_concat, size_classes_define, localMethod?_define _ hin, last?_concat, hlocal]
    refine ⟨?_, hsize⟩
    split
    · rw [Option.some_or]
    · rfl

/-- A class-object that is made without methods changes what no table holds. -/
theorem localMethod?_addClass (s : Store) {cell : ClassCell} (hcell : cell.methods = ∅)
    (c : ClassRef) (name : String) :
    (s.addClass cell).2.localMethod? c name = s.localMethod? c name := by
  have hread : (s.addClass cell).2.classes.read c = _ := s.classes.read_add cell c
  rw [localMethod?, hread]
  split
  · next hnext =>
    -- there is nothing yet where the class-object comes to be
    have hdefault : s.classes.read c = default :=
      s.classes.read_of_size_le (Nat.le_of_eq (congrArg Ref.index hnext).symm)
    rw [hcell, localMethod?, hdefault]
    rfl
  · rfl

/-- The tables of the built-in classes are filled by the definitions of the kernel methods. -/
theorem localMethod?_initial_eq (c : ClassRef) (name : String) :
    initial.localMethod? c name = last? (Kernel.definitions Core.initial) c name := by
  let bare := (addCoreClasses ∅).2
  have hfilled : initial = (Kernel.definitions Core.initial).foldl define bare := by
    rw [Kernel.definitions, List.foldl_map]
    rfl
  have hin : ∀ d ∈ Kernel.definitions Core.initial, d.cls.index < bare.classes.size := by
    decide +kernel
  have hempty : ∀ i < 12, (bare.classes.read ⟨i⟩).methods.names = [] := by decide +kernel
  have hbare : bare.localMethod? c name = none := by
    refine Option.eq_none_iff_forall_ne_some.2 fun method hmethod => ?_
    have hname : name ∈ (bare.classes.read c).methods.names := by
      rw [NameTable.mem_names]
      exact Option.isSome_iff_exists.2 ⟨method, hmethod⟩
    have hsize : bare.classes.size = 12 := by decide +kernel
    have hc : c.index < 12 := hsize ▸ index_lt_of_localMethod? hmethod
    rw [hempty c.index hc] at hname
    cases hname
  obtain ⟨hlocal, -⟩ := localMethod?_foldl_define hin c name
  rw [hfilled, hlocal, hbare, Option.or_none]

end Store

/-! ### Histories -/

/-- Nothing is in any table that was not there before, and everything is there still. -/
def Store.SameTables (s t : Store) : Prop :=
  ∀ c name, t.localMethod? c name = s.localMethod? c name

/-- An operation defines a method of a class that is in the store, or it leaves all tables alone. -/
theorem Step.tables {core : Core} (h : Step strict core s t) :
    (∃ d : Definition, d.cls.index < s.classes.size ∧ s.LiveMethod d.method ∧ t = s.define d) ∨
      s.SameTables t := by
  cases h.effect with
  | @defineMethod c name method hmethod =>
    rcases Nat.lt_or_ge c.index s.classes.size with hin | hout
    · exact .inl ⟨⟨c, name, method⟩, hin, hmethod, rfl⟩
    · right
      intro d key
      rw [Store.defineMethod, Cells.modify_of_size_le _ _ hout]
  | addClass hcell =>
    right
    apply Store.localMethod?_addClass
    cases hcell <;> rfl
  | newEigenclass => exact .inr (s.localMethod?_addClass rfl)
  | _ => exact .inr fun _ _ => rfl

/-- A record of the definitions that led to a store: first those of the kernel methods, and then
each that has been made.  Whatever leaves the tables alone is left out of it. -/
inductive History (strict : Bool) : List Definition → Store → Prop
  | initial : History strict (Kernel.definitions Core.initial) Store.initial
  | define {log : List Definition} {s : Store} {d : Definition} (h : History strict log s)
      (hin : d.cls.index < s.classes.size) (hmethod : s.LiveMethod d.method) :
      History strict (log ++ [d]) (s.define d)
  | other {log : List Definition} {s t : Store} (h : History strict log s)
      (hstep : Step strict Core.initial s t) (hsame : s.SameTables t) : History strict log t

variable {log : List Definition}

/-- **A record can be continued, whatever is done.** -/
theorem Steps.history (hsteps : Steps strict Core.initial s t) (h : History strict log s) :
    ∃ later, History strict (log ++ later) t := by
  induction hsteps with
  | refl => exact ⟨[], by rwa [List.append_nil]⟩
  | tail _ hstep ih =>
    obtain ⟨later, hu⟩ := ih
    rcases hstep.tables with ⟨d, hin, hmethod, rfl⟩ | hsame
    · exact ⟨later ++ [d], by rw [← List.append_assoc]; exact hu.define hin hmethod⟩
    · exact ⟨later, hu.other hstep hsame⟩

/-- So whatever can be reached has one. -/
theorem Reachable.exists_history (h : Reachable strict s) : ∃ log, History strict log s := by
  obtain ⟨later, hlog⟩ := h.steps.history .initial
  exact ⟨_, hlog⟩

namespace History

/-- **A table holds what was defined last.** -/
theorem localMethod?_eq (h : History strict log s) (c : ClassRef) (name : String) :
    s.localMethod? c name = last? log c name := by
  induction h with
  | initial => exact Store.localMethod?_initial_eq c name
  | define _ hin _ ih => rw [Store.localMethod?_define _ hin, last?_concat, ih]
  | other _ _ hsame ih => rw [hsame, ih]

/-- It lists the names that anything was defined under. -/
theorem mem_definedNames (h : History strict log s) :
    name ∈ s.definedNames c ↔ ∃ d ∈ log, d.cls = c ∧ d.name = name := by
  rw [Store.definedNames, NameTable.mem_names, ← last?_isSome_iff, ← h.localMethod?_eq]
  rfl

/-- Every entry of a record was a step. -/
theorem steps (h : History strict log s) : Steps strict Core.initial Store.initial s := by
  induction h with
  | initial => exact .refl
  | define _ _ hmethod ih => exact ih.tail (.defineMethod hmethod)
  | other _ hstep _ ih => exact ih.tail hstep

/-- A method for one object is recorded for its eigenclass. -/
theorem defineOnObject (h : History strict log s) {value : Value} {method : Method}
    (hvalue : s.Live value) (hmethod : s.LiveMethod method)
    (hdefined : s.defineOnObject Core.initial value name method = .ok t) :
    ∃ e, t.eigenclass? value = some e ∧ History strict (log ++ [⟨e, name, method⟩]) t := by
  cases hmade : s.ensureEigenclass Core.initial value with
  | error fault =>
    rw [Store.defineOnObject, hmade] at hdefined
    cases hdefined
  | ok made =>
    obtain ⟨e, u⟩ := made
    rw [Store.defineOnObject, hmade] at hdefined
    cases hdefined
    have hstep : Step strict Core.initial s u := .ensureEigenclass hvalue hmade
    obtain ⟨-, he⟩ := (Discipline.stepwise_lawful strict).ensureEigenclass h.steps hvalue hmade
    have hown : u.eigenclass? value = some e ∧ s.SameTables u := by
      rcases Store.ensureEigenclass_eq_ok hmade with
        ⟨hcarried, rfl⟩ | ⟨carrier, birth, rfl, -, -, rfl, rfl⟩
      · exact ⟨hcarried, fun _ _ => rfl⟩
      · refine ⟨?_, s.localMethod?_addClass rfl⟩
        rw [Store.eigenclass?_toValue, Store.carried?_attach, if_pos rfl]
    have hu : History strict log u := h.other hstep hown.2
    exact ⟨e, hown.1, hu.define (d := ⟨e, name, method⟩) he (hstep.grows.liveMethod hmethod)⟩

end History

/-- **Method tables are maps with sorted listing.**  Whatever can be reached, there is a record of
all the definitions that led there, the first of them those of the kernel methods; and it can be
continued, whatever is done next.  By any such record, a class or an eigenclass has under each name
the method that was defined last under it, and none if there was no definition.  Its names are
listed in ascending order, each once, and are those under which anything was defined; this is what
comes of sorting them, in whatever order they are gone through.  If by two records the same methods
were defined last, for one class or for two, the tables are the same.  A method for one object is a
definition for its eigenclass.  The listings of an object and of a class, and the arrays with which
the native methods answer, have just these names, and no names for an object without eigenclass. -/
theorem Reachable.tables_by_history (h : Reachable strict s) :
    (∃ log, History strict log s) ∧ ∀ log, History strict log s →
      (∀ t, Steps strict Core.initial s t → ∃ later, History strict (log ++ later) t) ∧
      (∀ c name, s.localMethod? c name = last? log c name) ∧
      (∀ c, (s.definedNames c).Pairwise (· < ·) ∧ (s.definedNames c).Nodup ∧
        (∀ name, name ∈ s.definedNames c ↔ ∃ d ∈ log, d.cls = c ∧ d.name = name) ∧
        ∀ keys : List String, keys.Nodup → (∀ name, name ∈ keys ↔ name ∈ s.definedNames c) →
          keys.mergeSort = s.definedNames c) ∧
      (∀ log' t, History strict log' t → ∀ c c',
        (∀ name, last? log' c' name = last? log c name) →
          (t.classes.read c').methods = (s.classes.read c).methods) ∧
      (∀ value name method t, s.Live value → s.LiveMethod method →
        s.defineOnObject Core.initial value name method = .ok t →
          ∃ e, t.eigenclass? value = some e ∧ History strict (log ++ [⟨e, name, method⟩]) t) ∧
      (∀ value, (s.eigenclass? value = none → s.objectMethodNames value = []) ∧
        ∀ e, s.eigenclass? value = some e → s.objectMethodNames value = s.definedNames e) ∧
      ∀ ctx args,
        (∀ value, KernelMethod.singletonMethods.run ctx value args s =
          some (s.newArray ((s.objectMethodNames value).map .symbol))) ∧
        ∀ c, KernelMethod.instanceMethods.run ctx (.cls c) args s =
          some (s.newArray ((s.definedNames c).map .symbol)) := by
  refine ⟨h.exists_history, fun log hlog => ⟨?_, hlog.localMethod?_eq, ?_, ?_, ?_, ?_, ?_⟩⟩
  · intro t hsteps
    exact hsteps.history hlog
  · intro c
    refine ⟨NameTable.names_pairwise _, NameTable.names_nodup _, ?_, ?_⟩
    · intro name
      exact hlog.mem_definedNames
    · intro keys hnodup hkeys
      exact NameTable.mergeSort_eq_names _ hnodup hkeys
  · intro log' t ht c c' hlast
    apply NameTable.ext_get?
    intro name
    have hboth : t.localMethod? c' name = s.localMethod? c name := by
      rw [ht.localMethod?_eq, hlog.localMethod?_eq, hlast]
    exact hboth
  · intro value name method t hvalue hmethod hdefined
    exact hlog.defineOnObject hvalue hmethod hdefined
  · intro value
    constructor
    · intro hnone
      rw [Store.objectMethodNames, hnone]
    · intro e he
      rw [Store.objectMethodNames, he]
  · intro ctx args
    exact ⟨fun _ => rfl, fun _ => rfl⟩

/-- A bare object, a method of `Class` defined anew, and another one. -/
def Store.withAllocate : Store :=
  (withObject.defineMethod Core.initial.cls "superclass"
    (.native (.kernel Core.initial.object .inspect))).defineMethod Core.initial.cls "allocate"
      (.native (.kernel Core.initial.cls .new))

/-- The listing of `Class` has both, and what was there; the object has no methods of its own. -/
theorem tables_by_history_withAllocate :
    Reachable true Store.withAllocate ∧
      Store.withAllocate.localMethod? Core.initial.cls "superclass" =
        some (.native (.kernel Core.initial.object .inspect)) ∧
      Store.withAllocate.definedNames Core.initial.cls = ["allocate", "new", "superclass"] ∧
      ∀ ctx, KernelMethod.singletonMethods.run ctx (.object ⟨0⟩) [] Store.withAllocate =
        some (Store.withAllocate.newArray []) := by
  let anew : Definition :=
    ⟨Core.initial.cls, "superclass", .native (.kernel Core.initial.object .inspect)⟩
  let other : Definition := ⟨Core.initial.cls, "allocate", .native (.kernel Core.initial.cls .new)⟩
  let log := Kernel.definitions Core.initial ++ [anew] ++ [other]
  have hstart := reachable_withObject true
  have hanew : Step true Core.initial Store.withObject (Store.withObject.define anew) :=
    .defineMethod trivial
  have hother : Step true Core.initial (Store.withObject.define anew) Store.withAllocate :=
    .defineMethod trivial
  have h : Reachable true Store.withAllocate :=
    (hstart.tail (.step hanew)).tail (.step hother)
  have hlog : History true log Store.withAllocate := by
    have hlayout : (Store.initial.classes.read Core.initial.object).layout?.bind
        Layout.objectTag? = some .object := by decide +kernel
    have hobject : Step true Core.initial Store.initial Store.withObject :=
      .allocate (Store.allocate_of_objectTag? hlayout)
    have hsame (s : Store) (c : ClassRef) (tag : Tag) : s.SameTables (s.newObject c tag).2 :=
      fun _ _ => rfl
    have hbegun : History true (Kernel.definitions Core.initial) Store.withObject :=
      .other .initial hobject (hsame Store.initial Core.initial.object .object)
    have hin : anew.cls.index < Store.withObject.classes.size := by decide +kernel
    have hin' : other.cls.index < (Store.withObject.define anew).classes.size := by
      rw [Store.size_classes_define]
      exact hin
    have hlive : Store.withObject.LiveMethod anew.method := trivial
    have hlive' : (Store.withObject.define anew).LiveMethod other.method := trivial
    exact (hbegun.define hin hlive).define hin' hlive'
  obtain ⟨-, hall⟩ := h.tables_by_history
  obtain ⟨-, hlast, hnames, -, -, hown, hnatives⟩ := hall log hlog
  obtain ⟨-, -, hmem, hsorted⟩ := hnames Core.initial.cls
  refine ⟨h, ?_, ?_, ?_⟩
  · rw [hlast]
    decide +kernel
  · have hrecorded : (log.filter (·.cls = Core.initial.cls)).map (·.name) =
        ["new", "superclass", "superclass", "allocate"] := by decide +kernel
    have hkeys (name : String) : name ∈ ["allocate", "new", "superclass"] ↔
        name ∈ Store.withAllocate.definedNames Core.initial.cls := by
      have hiff : name ∈ (log.filter (·.cls = Core.initial.cls)).map (·.name) ↔
          ∃ d ∈ log, d.cls = Core.initial.cls ∧ d.name = name := by
        simp only [List.mem_map, List.mem_filter, decide_eq_true_eq, and_assoc]
      have hforth : ∀ name ∈ ["allocate", "new", "superclass"],
          name ∈ ["new", "superclass", "superclass", "allocate"] := by decide
      have hback : ∀ name ∈ ["new", "superclass", "superclass", "allocate"],
          name ∈ ["allocate", "new", "superclass"] := by decide
      rw [hmem, ← hiff, hrecorded]
      exact ⟨hforth name, hback name⟩
    rw [← hsorted _ (by decide) hkeys]
    exact List.mergeSort_of_pairwise (by decide)
  · intro ctx
    have hnone : Store.withAllocate.eigenclass? (.object ⟨0⟩) = none := rfl
    rw [(hnatives ctx []).1, (hown (.object ⟨0⟩)).1 hnone, List.map_nil]

end ObjectModel
