import ObjectModel.Proofs.Graph
import ObjectModel.Proofs.Reachable
import ObjectModel.Proofs.Transience

/-!
# Confinement

A program touches only what it can reach.  Whatever in a store is not linked to the core classes or
to the scope of the program is afterwards exactly as it was, and neither the answer of the program
nor its scope leads there.

What a program cannot reach is hidden from it, together with everything that leads there.  No link
goes from what is not hidden to what is, and so no operation of a run comes across a hidden node,
nor does it add such a link.

The native functions of a host could reach anything.  They take no part if no method is one of
them and no value that is held is one.

## Main definitions

* `Store.HoldsNoBuiltin`, `Store.CarriersLive` — the stores that programs begin with.
* `Store.Hidden` — what a program cannot reach, and all that leads to it.
* `Store.Confined` — the hidden nodes are as they were, and out of reach.
* `Discipline.confined` — the rule to stay with what is not hidden.

## Main results

* `Store.Confined.touch` — a change at a node that is not hidden.
* `Discipline.confined_lawful` — every operation on the store keeps to the rule.
* `Machine.runProgram_confined` — so do programs.
-/

namespace ObjectModel

variable {core : Core} {host : Host} {base s t : Store} {hidden : Node → Prop}

namespace Store

/-- No value that is held is a function of the host, not even in an early return. -/
def HoldsNoBuiltin (s : Store) : Prop :=
  ∀ value, s.Holds value → ∀ entry name, value.payload ≠ .builtin entry name

/-- Whatever has an eigenclass is in the store.  The table of eigenclasses is kept apart from the
cells, so it could have an entry for an object that is yet to come. -/
def CarriersLive (s : Store) : Prop :=
  ∀ carrier e, s.carried? carrier = some e → s.Live carrier.toValue

theorem Sound.carriersLive {strict : Bool} (hs : s.Sound strict core) : s.CarriersLive :=
  fun _ _ hcarried => hs.carrier_live hcarried

/-! ### Hidden nodes -/

/-- The hidden nodes are what they were in the store `base`, and only hidden nodes lead to them.
They are in the store, except that a function can be hidden by its scope before it is made. -/
structure Confined (s : Store) (core : Core) (base : Store) (hidden : Node → Prop) : Prop where
  same : ∀ ⦃n : Node⦄, hidden n → base.Unchanged s n
  closed : ∀ ⦃n m : Node⦄, s.Link core n m → hidden m → hidden n
  has : ∀ ⦃n : Node⦄, hidden n →
    s.Has n ∨ ∃ closure, n = .function closure ∧ hidden (.scope closure.scope)

namespace Confined

/-- What is linked to a node that is not hidden is not hidden either. -/
theorem not_hidden_of_links (hs : s.Confined core base hidden) {n m : Node}
    (h : s.Links core n m) (hn : ¬ hidden n) : ¬ hidden m := by
  induction h with
  | refl => exact hn
  | tail _ hlink ih => exact fun hm => ih (hs.closed hlink hm)

/-- What is not in the store is not hidden. -/
theorem not_hidden_object (hs : s.Confined core base hidden) {carrier : Carrier}
    (h : ¬ s.Live carrier.toValue) : ¬ hidden (.object carrier) := by
  intro hhidden
  rcases hs.has hhidden with hlive | ⟨closure, heq, -⟩
  · exact h hlive
  · cases heq

theorem not_hidden_scope (hs : s.Confined core base hidden) {scope : ScopeRef}
    (h : s.scopes.size ≤ scope.index) : ¬ hidden (.scope scope) := by
  intro hhidden
  rcases hs.has hhidden with hlt | ⟨closure, heq, -⟩
  · exact Nat.not_lt.2 h hlt
  · cases heq

/-- **A change at a node that is not hidden keeps the hidden nodes out of reach**, if no link that
it adds leads to one of them. -/
theorem touch (hs : s.Confined core base hidden) {touched : Node} {new : Node → Prop}
    (h : s.Touches core t touched new) (htouched : ¬ hidden touched)
    (hnew : ∀ m, new m → ¬ hidden m) : t.Confined core base hidden where
  same := fun n hn => by
    have hne : n ≠ touched := by
      rintro rfl
      exact htouched hn
    exact (hs.same hn).trans (h.other hne)
  closed := fun n m hlink hm => by
    by_cases heq : n = touched
    · rw [heq] at hlink
      rcases h.links hlink with hold | hadded
      · exact absurd (hs.closed hold hm) htouched
      · exact absurd hm (hnew m hadded)
    · exact hs.closed (hlink.of_unchanged (h.other heq)) hm
  has := fun n hn => by
    rcases hs.has hn with hhas | hfunction
    · exact .inl (hhas.mono h.grows h.serial)
    · exact .inr hfunction

/-- A serial number that is used up changes no node. -/
theorem tick (hs : s.Confined core base hidden) :
    Confined { s with serial := s.serial + 1 } core base hidden where
  same := fun n hn => (hs.same hn).trans (s.unchanged_tick n)
  closed := fun n m hlink hm => hs.closed (hlink.of_unchanged (s.unchanged_tick n)) hm
  has := fun n hn => by
    rcases hs.has hn with hhas | hfunction
    · exact .inl (hhas.mono (s.grows_newPending .nil) (Nat.le_succ _))
    · exact .inr hfunction

/-- Binding names in a scope that is not hidden, to what is not hidden. -/
theorem setVars (hs : s.Confined core base hidden) {scope : ScopeRef}
    {bindings : List (String × Value)} (hscope : ¬ hidden (.scope scope))
    (h : ∀ binding ∈ bindings, ∀ m, binding.2.node? = some m → ¬ hidden m) :
    (s.setVars scope bindings).Confined core base hidden := by
  induction bindings generalizing s with
  | nil => exact hs
  | cons binding bindings ih =>
    have hfirst := h binding List.mem_cons_self
    have hbound := hs.touch (s.touches_setVar scope binding.1 binding.2) hscope hfirst
    exact ih hbound fun other hother => h other (List.mem_cons_of_mem _ hother)

/-- Entering a function opens a scope inside that of the function, which is not hidden. -/
theorem enter (hs : s.Confined core base hidden) {closure : Closure} {receiver? : Option Value}
    {args : List Value} (hclosure : ¬ hidden (.function closure))
    (hreceiver : ∀ receiver ∈ receiver?, ∀ m, receiver.node? = some m → ¬ hidden m)
    (hargs : ∀ arg ∈ args, ∀ m, arg.node? = some m → ¬ hidden m) :
    (s.enter closure receiver? args).2.Confined core base hidden ∧
      ¬ hidden (.scope (s.enter closure receiver? args).1) := by
  have hscope : ¬ hidden (.scope s.scopes.next) := hs.not_hidden_scope (Nat.le_refl _)
  have hopen : (s.newScope (some closure.scope)).2.Confined core base hidden := by
    refine hs.touch (s.touches_newScope _) hscope ?_
    rintro _ ⟨_, ⟨⟩, rfl⟩ hhidden
    exact hclosure (hs.closed .captured hhidden)
  have hbound : ((s.newScope (some closure.scope)).2.setVars s.scopes.next
      (closure.params.zip args)).Confined core base hidden :=
    hopen.setVars hscope fun _ hbinding => hargs _ (List.of_mem_zip hbinding).2
  cases receiver? with
  | none => exact ⟨hbound, hscope⟩
  | some receiver =>
    have hself := hbound.touch (touches_setVar _ _ "self" receiver) hscope (hreceiver receiver rfl)
    exact ⟨hself, hscope⟩

end Confined

end Store

/-! ### The rule -/

/-- Hidden nodes stay as they were in the store `base`.  No value, method or scope that takes part
refers to one. -/
def Discipline.confined (core : Core) (base : Store) (hidden : Node → Prop) : Discipline where
  Inv s := s.Confined core base hidden
  Leads _ _ := True
  Fit _ value := ∀ node, value.node? = some node → ¬ hidden node
  FitMethod _ method := ∀ node, method.node? = some node → ¬ hidden node
  FitScope _ scope := ¬ hidden (.scope scope)

namespace Discipline

/-- What refers to nothing is fit. -/
theorem confined_fit_of_none {value : Value} (h : value.node? = none) :
    (confined core base hidden).Fit s value := by
  intro node hnode
  rw [h] at hnode
  cases hnode

theorem confined_fit_cls {c : ClassRef} (h : ¬ hidden (.object (.cls c))) :
    (confined core base hidden).Fit s (.cls c) := by
  rintro _ ⟨⟩
  exact h

/-- A new object that refers to nothing hidden. -/
theorem confined_add (hs : s.Confined core base hidden) {carrier : Carrier} {new : Node → Prop}
    (hfresh : ¬ s.Live carrier.toValue) (h : s.Touches core t (.object carrier) new)
    (hnew : ∀ m, new m → ¬ hidden m) :
    (confined core base hidden).To s t ∧ (confined core base hidden).Fit t carrier.toValue := by
  have hcarrier := hs.not_hidden_object hfresh
  refine ⟨⟨hs.touch h hcarrier hnew, trivial⟩, ?_⟩
  intro node hnode
  rw [Carrier.node?_toValue] at hnode
  cases hnode
  exact hcarrier

/-- A new eigenclass is linked to its superclass, and from its object. -/
theorem confined_ensureEigenclass (hcore : ∀ c ∈ core.classes, ¬ hidden (.object (.cls c)))
    (hs : s.Confined core base hidden) {value : Value} {e : ClassRef}
    (hvalue : (confined core base hidden).Fit s value)
    (h : s.ensureEigenclass core value = .ok (e, t)) :
    (confined core base hidden).To s t ∧ (confined core base hidden).Fit t (.cls e) := by
  rcases Store.ensureEigenclass_eq_ok h with
    ⟨heigenclass, rfl⟩ | ⟨carrier, birth, rfl, hcarried, hbirth, rfl, rfl⟩
  · obtain ⟨carrier, rfl, hcarried⟩ := Store.eigenclass?_eq_some_iff.1 heigenclass
    refine ⟨⟨hs, trivial⟩, confined_fit_cls fun hhidden => ?_⟩
    exact hvalue _ carrier.node?_toValue (hs.closed (.eigenclass hcarried) hhidden)
  · have hcarrier := hvalue _ carrier.node?_toValue
    have hsuperclass : ¬ hidden (.object (.cls birth)) :=
      fun hhidden => hcarrier (hs.closed (.birth hbirth) hhidden)
    have hfresh : ¬ hidden (.object (.cls s.classes.next)) :=
      hs.not_hidden_object (Nat.lt_irrefl _)
    have hmade : (s.makeEigenclass (s.inspect carrier.toValue) birth).2.Confined
        core base hidden := by
      refine hs.touch (s.touches_addClass rfl) hfresh ?_
      rintro m (rfl | ⟨parent, ⟨⟩, rfl⟩)
      · exact hcore _ (by simp [Core.classes, Core.all, Core.metaclass])
      · exact hsuperclass
    have hattached := hmade.touch (Store.touches_attach s.classes.next hcarried) hcarrier ?_
    · exact ⟨⟨hattached, trivial⟩, confined_fit_cls hfresh⟩
    · rintro m rfl
      exact hfresh

theorem confined_lawful (hcore : ∀ c ∈ core.classes, ¬ hidden (.object (.cls c))) :
    (confined core base hidden).Lawful core where
  refl := fun _ => trivial
  trans := fun _ _ => trivial
  fit_mono := fun _ h => h
  method_mono := fun _ h => h
  scope_mono := fun _ h => h
  fit_nil := fun _ => confined_fit_of_none rfl
  fit_bool := fun _ _ => confined_fit_of_none rfl
  fit_int := fun _ _ => confined_fit_of_none rfl
  fit_symbol := fun _ _ => confined_fit_of_none rfl
  fit_payload := fun h => h
  fit_function := fun h => h
  fit_core := fun _ hc => confined_fit_cls (hcore _ (Core.mem_classes_of_find? hc))
  fit_birth := fun hs hvalue hbirth => by
    refine confined_fit_cls fun h => ?_
    rcases Store.link_birthClass? hbirth with hmem | ⟨node, hnode, hlink⟩
    · exact hcore _ hmem h
    · exact hvalue node hnode (hs.closed hlink h)
  fit_superclass := fun hs hc hparent => by
    refine confined_fit_cls fun h => ?_
    exact hc _ rfl (hs.closed (.superclass hparent) h)
  fit_found := fun hs hreceiver hfound node hnode => by
    obtain ⟨start, hstart, hlinks⟩ := Store.links_methodFor hfound hnode
    apply hs.not_hidden_of_links hlinks
    rcases hstart with ⟨c, hmem, rfl⟩ | hstart
    · exact hcore c hmem
    · exact hreceiver start hstart
  fit_variable := fun hs hscope hvalue node hnode =>
    hs.not_hidden_of_links (Store.links_valueOf? hvalue hnode) hscope
  fit_ivar := fun hs href hvalue node hnode h =>
    href _ rfl (hs.closed (.ivar hvalue hnode) h)
  newString := fun {s} text hs =>
    confined_add hs (Nat.lt_irrefl _) (s.touches_newString text) fun _ => False.elim
  newArray := fun {s elements} hs helements => by
    refine confined_add hs (Nat.lt_irrefl _) (s.touches_newArray elements) ?_
    rintro m ⟨value, hmem, hnode⟩
    exact helements value hmem m hnode
  newException := fun {s c} message hs hc _ => by
    refine confined_add hs (Nat.lt_irrefl _) (s.touches_newException c message) ?_
    rintro m rfl
    exact hc _ rfl
  newPending := fun {s value} hs _ => ⟨hs.tick, trivial⟩
  allocate := fun {s t c value} hs hc hmade => by
    rcases Store.allocate_eq_ok hmade with ⟨tag, -, heq⟩ | ⟨-, heq⟩
    · cases heq
      refine confined_add hs (Nat.lt_irrefl _) (s.touches_newObject c tag) ?_
      rintro m rfl
      exact hc _ rfl
    · cases heq
      refine confined_add hs (Nat.lt_irrefl _) (s.touches_newException c _) ?_
      rintro m rfl
      exact hc _ rfl
  ensureEigenclass := fun hs hvalue hmade => confined_ensureEigenclass hcore hs hvalue hmade
  makeFunction := fun {s t params body scope closure} hs hscope hmade => by
    obtain ⟨rfl, rfl⟩ := Store.makeFunction_eq_ok hmade
    refine ⟨⟨hs.tick, trivial⟩, ?_⟩
    -- its serial number is new, so it could only be hidden by its scope
    rintro _ ⟨⟩ hhidden
    rcases hs.has hhidden with hlt | ⟨_, ⟨⟩, hscope'⟩
    · exact Nat.lt_irrefl _ hlt
    · exact hscope hscope'
  assign := fun {s scope name value} hs hscope hvalue => by
    have hassignee := hs.not_hidden_of_links (s.links_assignee scope name) hscope
    exact ⟨hs.touch (s.touches_setVar _ name value) hassignee hvalue, trivial⟩
  setIvar := fun {s ref name value} hs href hvalue =>
    ⟨hs.touch (s.touches_setIvar ref name value) (href _ rfl) hvalue, trivial⟩
  enter := fun hs hclosure hreceiver hargs => by
    obtain ⟨hentered, hscope⟩ := hs.enter (hclosure _ rfl) hreceiver hargs
    exact ⟨⟨hentered, trivial⟩, hscope⟩

/-- The rule finds no use for native functions of a host, if the host is hidden. -/
theorem confined_host (hhost : hidden .host) :
    (confined core base hidden).HostObeys core host where
  method := fun _ _ hmethod _ _ => absurd hhost (hmethod _ rfl)
  builtin := fun _ hbuiltin _ => absurd hhost (hbuiltin _ rfl)

end Discipline

/-! ### Programs -/

namespace Store

variable {scope : ScopeRef}

/-- What cannot be reached, and all that leads to it. -/
def Hidden (s : Store) (core : Core) (scope : ScopeRef) (node : Node) : Prop :=
  ∃ target, s.Links core node target ∧ s.Has target ∧ ¬ s.Reaches core scope target

/-- Where a program begins is not hidden from it. -/
theorem not_hidden_of_isRoot {node : Node} (h : Node.IsRoot core scope node) :
    ¬ s.Hidden core scope node := by
  rintro ⟨target, hlinks, -, hunreached⟩
  exact hunreached ⟨node, h, hlinks⟩

/-- What is neither a class nor a scope can only be reached through a value or a method. -/
theorem not_reaches_of_not_held {node : Node} (hclass : ∀ c, node ≠ .object (.cls c))
    (hscope : ∀ outer, node ≠ .scope outer)
    (hheld : ∀ value, s.Holds value → value.node? ≠ some node)
    (hmethods : ∀ c name method, s.localMethod? c name = some method →
      method.node? ≠ some node) : ¬ s.Reaches core scope node := by
  rintro ⟨root, hroot, hlinks⟩
  rcases Relation.ReflTransGen.cases_tail hlinks with rfl | ⟨before, -, hlink⟩
  · cases hroot with
    | core => exact hclass _ rfl
    | scope => exact hscope _ rfl
  · cases hlink with
    | element h hnode => exact hheld _ (.element h) hnode
    | ivar h hnode => exact hheld _ (.ivar h) hnode
    | binding h hnode => exact hheld _ (.binding h) hnode
    | parent | captured => exact hscope _ rfl
    | birth | eigenclass | superclass => exact hclass _ rfl
    | method h hnode => exact hmethods _ _ _ h hnode

/-- The methods of the kernel refer to nothing, and those of the user to functions. -/
theorem KernelNatives.node?_ne (hnatives : s.KernelNatives) {node : Node}
    (hfunction : ∀ closure, node ≠ .function closure) {c : ClassRef} {name : String}
    {method : Method} (h : s.localMethod? c name = some method) :
    method.node? ≠ some node := by
  intro hnode
  cases method with
  | native native =>
    obtain ⟨home, method, rfl⟩ := hnatives c name native h
    cases hnode
  | user closure =>
    cases hnode
    exact hfunction closure rfl

/-- Without native functions of a host, no program comes across one. -/
theorem hidden_host (hbuiltins : s.HoldsNoBuiltin) (hnatives : s.KernelNatives) :
    s.Hidden core scope .host := by
  refine ⟨.host, .refl, trivial, not_reaches_of_not_held ?_ ?_ ?_ ?_⟩
  · rintro _ ⟨⟩
  · rintro _ ⟨⟩
  · intro value hheld hnode
    obtain ⟨entry, name, hpayload⟩ := Value.node?_eq_host hnode
    exact hbuiltins value hheld entry name hpayload
  · intro c name method hmethod
    refine hnatives.node?_ne ?_ hmethod
    rintro _ ⟨⟩

/-- A link begins at something that is in the store, or it leads from a function to its scope, or
to a core class. -/
theorem Link.source (hcarriers : s.CarriersLive) {n m : Node} (h : s.Link core n m) :
    s.Has n ∨ (∃ closure, n = .function closure ∧ m = .scope closure.scope) ∨
      ∃ c ∈ core.classes, m = .object (.cls c) := by
  cases h with
  | @element ref value _ hvalue _ =>
    refine .inl (Nat.lt_of_not_le fun hout => ?_)
    rw [elements_of_size_le hout] at hvalue
    cases hvalue
  | @ivar ref name value _ hvalue _ =>
    refine .inl (Nat.lt_of_not_le fun hout => ?_)
    rw [ivar?, Cells.read_of_size_le hout] at hvalue
    cases hvalue
  | @binding scope name value _ hvalue _ =>
    refine .inl (Nat.lt_of_not_le fun hout => ?_)
    rw [localValue?, Cells.read_of_size_le hout] at hvalue
    cases hvalue
  | @parent scope _ hparent =>
    refine .inl (Nat.lt_of_not_le fun hout => ?_)
    rw [parentScope?, Cells.read_of_size_le hout] at hparent
    cases hparent
  | @captured closure => exact .inr (.inl ⟨closure, rfl, rfl⟩)
  | @birth carrier c hbirth =>
    cases carrier with
    | string | array =>
      cases hbirth
      exact .inr (.inr ⟨_, by simp [Core.classes, Core.all], rfl⟩)
    | object ref =>
      obtain ⟨cell, hcell, -⟩ := Option.map_eq_some_iff.1 hbirth
      exact .inl ((s.objects.get?_isSome ref).1 (by rw [hcell]; rfl))
    | exception ref =>
      obtain ⟨cell, hcell, -⟩ := Option.map_eq_some_iff.1 hbirth
      exact .inl ((s.exceptions.get?_isSome ref).1 (by rw [hcell]; rfl))
    | cls ref =>
      obtain ⟨cell, hcell, -⟩ := Option.map_eq_some_iff.1 hbirth
      exact .inl ((s.classes.get?_isSome ref).1 (by rw [hcell]; rfl))
  | eigenclass hcarried => exact .inl (hcarriers _ _ hcarried)
  | superclass hparent => exact .inl (index_lt_of_superclass? hparent)
  | @method c name _ _ hmethod _ =>
    refine .inl (Nat.lt_of_not_le fun hout => ?_)
    rw [localMethod?, Cells.read_of_size_le hout] at hmethod
    cases hmethod

/-- What a program cannot reach when it begins is out of reach. -/
theorem confined_hidden (hcarriers : s.CarriersLive) :
    s.Confined core s (s.Hidden core scope) where
  same := fun n _ => .refl s n
  closed := fun n m hlink hm => by
    obtain ⟨target, hlinks, hhas, hunreached⟩ := hm
    exact ⟨target, .head hlink hlinks, hhas, hunreached⟩
  has := fun n hn => by
    obtain ⟨target, hlinks, hhas, hunreached⟩ := hn
    rcases Relation.ReflTransGen.cases_head hlinks with rfl | ⟨m, hlink, hrest⟩
    · exact .inl hhas
    · rcases hlink.source hcarriers with hn | ⟨closure, rfl, rfl⟩ | ⟨c, hc, rfl⟩
      · exact .inl hn
      · exact .inr ⟨closure, rfl, target, hrest, hhas, hunreached⟩
      · exact absurd ⟨_, .core hc, hrest⟩ hunreached

end Store

/-- **A program touches only what it can reach.**  Let no function of the host be held by a store,
let all its native methods be those of the kernel, and let everything that has an eigenclass be in
it, as it is in every reachable store.  After a program that comes to an end, whatever was in the
store and out of its reach is exactly as it was.  It is still out of reach, and the answer does not
lead there either. -/
theorem Machine.runProgram_confined {depth : Nat} {scope : ScopeRef} {block : Block}
    {answer : Value} (hbuiltins : s.HoldsNoBuiltin) (hnatives : s.KernelNatives)
    (hcarriers : s.CarriersLive)
    (hrun : Machine.runProgram core host depth scope block s = some (answer, t)) :
    ∀ node, s.Has node → ¬ s.Reaches core scope node →
      s.Unchanged t node ∧ ¬ t.Reaches core scope node ∧
        ∀ start, answer.node? = some start → ¬ t.Links core start node := by
  have hD : (Discipline.confined core s (s.Hidden core scope)).Lawful core :=
    Discipline.confined_lawful fun c hc => Store.not_hidden_of_isRoot (.core hc)
  have hhost : (Discipline.confined core s (s.Hidden core scope)).HostObeys core host :=
    Discipline.confined_host (Store.hidden_host hbuiltins hnatives)
  have hscope : ¬ s.Hidden core scope (.scope scope) := Store.not_hidden_of_isRoot .scope
  obtain ⟨⟨ht, -⟩, hanswer⟩ :=
    hD.runProgram hhost depth (Store.confined_hidden hcarriers) hscope block hrun
  intro node hhas hunreached
  have hnode : s.Hidden core scope node := ⟨node, .refl, hhas, hunreached⟩
  refine ⟨ht.same hnode, ?_, ?_⟩
  · rintro ⟨root, hroot, hlinks⟩
    exact ht.not_hidden_of_links hlinks (Store.not_hidden_of_isRoot hroot) hnode
  · intro start hstart hlinks
    rcases hanswer with hfit | hfault
    · exact ht.not_hidden_of_links hlinks (hfit start hstart) hnode
    · rw [Value.node?_of_isFault hfault] at hstart
      cases hstart

/-- The store of a program with one empty scope, and an array that nothing refers to. -/
def Store.withStray : Store := (Store.withScope.newArray [.int 1]).2

theorem Store.holds_withStray {value : Value} (h : withStray.Holds value) : value = .int 1 := by
  rcases holds_newArray h with hmem | hold
  · exact List.mem_singleton.1 hmem
  · exact absurd (holds_newScope hold) (not_holds_initial value)

theorem Store.ordinary_withStray : withStray.Ordinary := by
  refine ordinary_withScope.write (fun value hvalue => .inl ?_) rfl
  rw [holds_withStray hvalue]
  rfl

theorem Store.steps_withStray : Steps true Core.initial initial withStray := by
  have hscope : Step true Core.initial initial withScope := .newScope (by rintro _ ⟨⟩)
  refine .tail (.single hscope) (.newArray ?_)
  intro value hvalue
  rw [List.mem_singleton.1 hvalue]
  trivial

/-- The array is what it was when a program that makes a function and calls it has run. -/
theorem runProgram_confined_earlyReturn :
    Store.withStray.HoldsNoBuiltin ∧ Store.withStray.KernelNatives ∧
      Store.withStray.CarriersLive ∧ Store.withStray.Has (.object (.array ⟨0⟩)) ∧
      ¬ Store.withStray.Reaches Core.initial ⟨0⟩ (.object (.array ⟨0⟩)) ∧
      ∃ answer t, Machine.runProgram Core.initial ⟨fun _ _ _ _ => pure .nil, fun _ _ => pure .nil⟩
          2 ⟨0⟩ earlyReturn Store.withStray = some (answer, t) ∧
        Store.withStray.Unchanged t (.object (.array ⟨0⟩)) ∧
        ¬ t.Reaches Core.initial ⟨0⟩ (.object (.array ⟨0⟩)) := by
  have hbuiltins : Store.withStray.HoldsNoBuiltin := by
    intro value hheld entry name hpayload
    rw [Store.holds_withStray hheld] at hpayload
    cases hpayload
  have hnatives : Store.withStray.KernelNatives :=
    (Store.ordinary_iff.1 Store.ordinary_withStray).2.2
  have hcarriers : Store.withStray.CarriersLive :=
    Store.steps_withStray.sound_of_initial.carriersLive
  have hlt : (⟨0⟩ : ArrayRef).index < Store.withStray.arrays.size := by decide +kernel
  have hhas : Store.withStray.Has (.object (.array ⟨0⟩)) := hlt
  have hunreached : ¬ Store.withStray.Reaches Core.initial ⟨0⟩ (.object (.array ⟨0⟩)) := by
    refine Store.not_reaches_of_not_held ?_ ?_ ?_ ?_
    · rintro _ ⟨⟩
    · rintro _ ⟨⟩
    · intro value hheld hnode
      rw [Store.holds_withStray hheld] at hnode
      cases hnode
    · intro c name method hmethod
      refine hnatives.node?_ne ?_ hmethod
      rintro _ ⟨⟩
  have hfinishes : (Machine.runProgram Core.initial
      ⟨fun _ _ _ _ => pure .nil, fun _ _ => pure .nil⟩ 2 ⟨0⟩ earlyReturn
        Store.withStray).isSome = true := by decide +kernel
  obtain ⟨⟨answer, t⟩, hrun⟩ := Option.isSome_iff_exists.1 hfinishes
  obtain ⟨hsame, hreach, -⟩ :=
    Machine.runProgram_confined hbuiltins hnatives hcarriers hrun _ hhas hunreached
  exact ⟨hbuiltins, hnatives, hcarriers, hhas, hunreached, answer, t, hrun, hsame, hreach⟩

end ObjectModel
