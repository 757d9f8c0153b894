import ObjectModel.Proofs.Sound

/-!
# The graph of a store

What is in a store refers to other things in it: a scope to what it binds and to the scope around
it, a function to the scope it was made in, an array to its elements, an object to its instance
variables, and everything that has a class to its class, its eigenclass, superclasses and methods.
Whatever a program comes across it comes across along these links, from the core classes and from
its scope.

Each write changes one thing, and the links that it adds begin there.

## Main definitions

* `Node`, `Value.node?`, `Method.node?` — what can be referred to, and what a value refers to.
* `Store.Link`, `Store.Reaches` — the links, and what they lead to from a program.
* `Store.Has` — what is in the store.
* `Store.Unchanged` — a node with the contents that it had.
* `Store.Touches` — a change at one node only.

## Main results

* `Store.Link.of_unchanged` — the links of a node depend on its contents only.
* `Store.touches_newArray`, `Store.touches_setVar` and the like — what each write touches.
* `Store.links_valueOf?`, `Store.links_methodFor` — names and messages are looked up along links.
-/

namespace ObjectModel

/-! ### Nodes -/

/-- What can be referred to.  The native functions of the host count as one. -/
inductive Node where
  | object (carrier : Carrier)
  | scope (scope : ScopeRef)
  | function (closure : Closure)
  | host

/-- What a value refers to.  An early return refers to what its payload does, and an immediate to
nothing. -/
def Value.node? : Value → Option Node
  | .string ref => some (.object (.string ref))
  | .array ref => some (.object (.array ref))
  | .object ref => some (.object (.object ref))
  | .exception ref => some (.object (.exception ref))
  | .cls c => some (.object (.cls c))
  | .function closure => some (.function closure)
  | .builtin _ _ => some .host
  | .pending _ payload => payload.node?
  | .nil | .bool _ | .int _ | .symbol _ | .fault _ => none

/-- What a method refers to.  The kernel refers to nothing. -/
def Method.node? : Method → Option Node
  | .native (.kernel _ _) => none
  | .native (.host _ _ _) => some .host
  | .user closure => some (.function closure)

theorem Carrier.node?_toValue (carrier : Carrier) :
    carrier.toValue.node? = some (.object carrier) := by
  cases carrier <;> rfl

theorem Value.node?_payload (value : Value) : value.payload.node? = value.node? := by
  induction value with
  | pending serial payload ih => exact ih
  | _ => rfl

/-- Only a function of the host refers to the host. -/
theorem Value.node?_eq_host {value : Value} (h : value.node? = some .host) :
    ∃ entry name, value.payload = .builtin entry name := by
  induction value with
  | builtin entry name => exact ⟨entry, name, rfl⟩
  | pending serial payload ih => exact ih h
  | _ => cases h

theorem Value.node?_of_isFault {value : Value} (h : value.isFault = true) : value.node? = none := by
  cases value with
  | fault => rfl
  | _ => cases h

namespace Store

variable {core : Core} {s t : Store}

/-! ### Links -/

/-- What refers to what. -/
inductive Link (core : Core) (s : Store) : Node → Node → Prop
  | element {ref : ArrayRef} {value : Value} {node : Node} (h : value ∈ s.elements ref)
      (hnode : value.node? = some node) : Link core s (.object (.array ref)) node
  | ivar {ref : ObjectRef} {name : String} {value : Value} {node : Node}
      (h : s.ivar? ref name = some value) (hnode : value.node? = some node) :
      Link core s (.object (.object ref)) node
  | binding {scope : ScopeRef} {name : String} {value : Value} {node : Node}
      (h : s.localValue? scope name = some value) (hnode : value.node? = some node) :
      Link core s (.scope scope) node
  | parent {scope parent : ScopeRef} (h : s.parentScope? scope = some parent) :
      Link core s (.scope scope) (.scope parent)
  | captured {closure : Closure} : Link core s (.function closure) (.scope closure.scope)
  | birth {carrier : Carrier} {c : ClassRef} (h : s.birthClass? core carrier.toValue = some c) :
      Link core s (.object carrier) (.object (.cls c))
  | eigenclass {carrier : Carrier} {c : ClassRef} (h : s.carried? carrier = some c) :
      Link core s (.object carrier) (.object (.cls c))
  | superclass {c parent : ClassRef} (h : s.superclass? c = some parent) :
      Link core s (.object (.cls c)) (.object (.cls parent))
  | method {c : ClassRef} {name : String} {method : Method} {node : Node}
      (h : s.localMethod? c name = some method) (hnode : method.node? = some node) :
      Link core s (.object (.cls c)) node

/-- Any number of links. -/
abbrev Links (core : Core) (s : Store) : Node → Node → Prop :=
  Relation.ReflTransGen (s.Link core)

end Store

/-- Where a program in a scope begins: the core classes, and the scope. -/
inductive Node.IsRoot (core : Core) (scope : ScopeRef) : Node → Prop
  | core {c : ClassRef} (h : c ∈ core.classes) : IsRoot core scope (.object (.cls c))
  | scope : IsRoot core scope (.scope scope)

namespace Store

variable {core : Core} {s t : Store}

/-- A program in the scope can come across the node. -/
def Reaches (s : Store) (core : Core) (scope : ScopeRef) (node : Node) : Prop :=
  ∃ root, Node.IsRoot core scope root ∧ s.Links core root node

/-- What is in the store.  The functions that have been made are known by their serial numbers. -/
def Has (s : Store) : Node → Prop
  | .object carrier => s.Live carrier.toValue
  | .scope scope => scope.index < s.scopes.size
  | .function closure => closure.serial < s.serial
  | .host => True

theorem Has.mono {node : Node} (hgrows : s.Grows t) (hserial : s.serial ≤ t.serial)
    (h : s.Has node) : t.Has node := by
  cases node with
  | object carrier => exact hgrows.live h
  | scope scope => exact Nat.lt_of_lt_of_le h hgrows.scopes.size_le
  | function closure => exact Nat.lt_of_lt_of_le h hserial
  | host => trivial

/-! ### Contents -/

/-- The cell of an object has the contents that it had. -/
def KeepsCell (s t : Store) : Carrier → Prop
  | .string ref => t.strings.get? ref = s.strings.get? ref
  | .array ref => t.arrays.get? ref = s.arrays.get? ref
  | .object ref => t.objects.get? ref = s.objects.get? ref
  | .exception ref => t.exceptions.get? ref = s.exceptions.get? ref
  | .cls c => t.classes.get? c = s.classes.get? c

/-- The node is exactly as it was.  An object is its cell and the place of its eigenclass; functions
do not change. -/
def Unchanged (s t : Store) : Node → Prop
  | .object carrier => s.KeepsCell t carrier ∧ t.carried? carrier = s.carried? carrier
  | .scope scope => t.scopes.get? scope = s.scopes.get? scope
  | .function _ | .host => True

theorem Unchanged.refl (s : Store) (node : Node) : s.Unchanged s node := by
  cases node with
  | object carrier => cases carrier <;> exact ⟨rfl, rfl⟩
  | scope => rfl
  | function | host => trivial

theorem Unchanged.trans {u : Store} {node : Node} (h : s.Unchanged t node)
    (h' : t.Unchanged u node) : s.Unchanged u node := by
  cases node with
  | object carrier =>
    refine ⟨?_, h'.2.trans h.2⟩
    have hcell := h.1
    have hcell' := h'.1
    cases carrier <;> exact hcell'.trans hcell
  | scope => exact Eq.trans h' h
  | function | host => trivial

/-- The links of a node depend on its contents only. -/
theorem Link.of_unchanged {n m : Node} (h : t.Link core n m) (hn : s.Unchanged t n) :
    s.Link core n m := by
  cases h with
  | @element ref value _ hvalue hnode =>
    have hcell : t.arrays.get? ref = s.arrays.get? ref := hn.1
    rw [elements, Cells.read, hcell] at hvalue
    exact .element hvalue hnode
  | @ivar ref name value _ hvalue hnode =>
    have hcell : t.objects.get? ref = s.objects.get? ref := hn.1
    rw [ivar?, Cells.read, hcell] at hvalue
    exact .ivar hvalue hnode
  | @binding scope name value _ hvalue hnode =>
    have hcell : t.scopes.get? scope = s.scopes.get? scope := hn
    rw [localValue?, Cells.read, hcell] at hvalue
    exact .binding hvalue hnode
  | @parent scope _ hparent =>
    have hcell : t.scopes.get? scope = s.scopes.get? scope := hn
    rw [parentScope?, Cells.read, hcell] at hparent
    exact .parent hparent
  | captured => exact .captured
  | @birth carrier c hbirth =>
    have hsame : t.birthClass? core carrier.toValue = s.birthClass? core carrier.toValue := by
      obtain ⟨hcell, -⟩ := hn
      cases carrier with
      | string | array => rfl
      | object ref => exact congrArg (Option.map (·.cls)) hcell
      | exception ref => exact congrArg (Option.map (·.cls)) hcell
      | cls c => exact congrArg (Option.map core.metaclass) hcell
    exact .birth (hsame ▸ hbirth)
  | eigenclass hcarried => exact .eigenclass (hn.2 ▸ hcarried)
  | @superclass c _ hparent =>
    have hcell : t.classes.get? c = s.classes.get? c := hn.1
    rw [superclass?, Cells.read, hcell] at hparent
    exact .superclass hparent
  | @method c name _ _ hmethod hnode =>
    have hcell : t.classes.get? c = s.classes.get? c := hn.1
    rw [localMethod?, Cells.read, hcell] at hmethod
    exact .method hmethod hnode

/-! ### What a write touches -/

/-- The store changes at one node only, and the links that are added there lead to `new` ones. -/
structure Touches (core : Core) (s t : Store) (touched : Node) (new : Node → Prop) : Prop where
  other : ∀ ⦃n : Node⦄, n ≠ touched → s.Unchanged t n
  links : ∀ ⦃m : Node⦄, t.Link core touched m → s.Link core touched m ∨ new m
  grows : s.Grows t
  serial : s.serial ≤ t.serial

/-- A serial number that is used up changes no node. -/
theorem unchanged_tick (s : Store) (node : Node) :
    s.Unchanged { s with serial := s.serial + 1 } node :=
  Unchanged.refl s node

theorem touches_newString (s : Store) (text : String) :
    s.Touches core (s.newString text).2 (.object (.string s.strings.next)) fun _ => False where
  other := fun n hn => by
    cases n with
    | object carrier =>
      cases carrier with
      | string ref =>
        refine ⟨s.strings.get?_add_of_ne text ?_, rfl⟩
        rintro rfl
        exact hn rfl
      | _ => exact ⟨rfl, rfl⟩
    | scope => rfl
    | function | host => trivial
  links := fun m hlink => by
    cases hlink with
    | birth h => exact .inl (.birth h)
    | eigenclass h => exact .inl (.eigenclass h)
  grows := s.grows_newString text
  serial := Nat.le_refl _

theorem touches_newArray (s : Store) (elements : List Value) :
    s.Touches core (s.newArray elements).2 (.object (.array s.arrays.next))
      fun m => ∃ value ∈ elements, value.node? = some m where
  other := fun n hn => by
    cases n with
    | object carrier =>
      cases carrier with
      | array ref =>
        refine ⟨s.arrays.get?_add_of_ne elements ?_, rfl⟩
        rintro rfl
        exact hn rfl
      | _ => exact ⟨rfl, rfl⟩
    | scope => rfl
    | function | host => trivial
  links := fun m hlink => by
    cases hlink with
    | element h hnode =>
      rw [elements_newArray, if_pos rfl] at h
      exact .inr ⟨_, h, hnode⟩
    | birth h => exact .inl (.birth h)
    | eigenclass h => exact .inl (.eigenclass h)
  grows := s.grows_newArray elements
  serial := Nat.le_refl _

theorem touches_newObject (s : Store) (c : ClassRef) (tag : Tag) :
    s.Touches core (s.newObject c tag).2 (.object (.object s.objects.next))
      fun m => m = .object (.cls c) where
  other := fun n hn => by
    cases n with
    | object carrier =>
      cases carrier with
      | object ref =>
        refine ⟨s.objects.get?_add_of_ne _ ?_, rfl⟩
        rintro rfl
        exact hn rfl
      | _ => exact ⟨rfl, rfl⟩
    | scope => rfl
    | function | host => trivial
  links := fun m hlink => by
    cases hlink with
    | ivar h _ =>
      rw [ivar?_newObject, if_pos rfl] at h
      cases h
    | birth h =>
      have hcell : (s.newObject c tag).2.objects.get? s.objects.next = some ⟨c, tag, ∅⟩ :=
        s.objects.get?_add_next _
      rw [Carrier.toValue, birthClass?, hcell] at h
      cases h
      exact .inr rfl
    | eigenclass h => exact .inl (.eigenclass h)
  grows := s.grows_newObject c tag
  serial := Nat.le_refl _

theorem touches_newException (s : Store) (c : ClassRef) (message : String) :
    s.Touches core (s.newException c message).2 (.object (.exception s.exceptions.next))
      fun m => m = .object (.cls c) where
  other := fun n hn => by
    cases n with
    | object carrier =>
      cases carrier with
      | exception ref =>
        refine ⟨s.exceptions.get?_add_of_ne _ ?_, rfl⟩
        rintro rfl
        exact hn rfl
      | _ => exact ⟨rfl, rfl⟩
    | scope => rfl
    | function | host => trivial
  links := fun m hlink => by
    cases hlink with
    | birth h =>
      have hcell : (s.newException c message).2.exceptions.get? s.exceptions.next =
          some ⟨c, message⟩ := s.exceptions.get?_add_next _
      rw [Carrier.toValue, birthClass?, hcell] at h
      cases h
      exact .inr rfl
    | eigenclass h => exact .inl (.eigenclass h)
  grows := s.grows_newException c message
  serial := Nat.le_refl _

/-- A class that has just been made has no methods. -/
theorem touches_addClass (s : Store) {cell : ClassCell} (hcell : cell.methods = ∅) :
    s.Touches core (s.addClass cell).2 (.object (.cls s.classes.next))
      fun m => m = .object (.cls (core.metaclass cell)) ∨
        ∃ parent, cell.superclass? = some parent ∧ m = .object (.cls parent) where
  other := fun n hn => by
    cases n with
    | object carrier =>
      cases carrier with
      | cls c =>
        refine ⟨s.classes.get?_add_of_ne cell ?_, rfl⟩
        rintro rfl
        exact hn rfl
      | _ => exact ⟨rfl, rfl⟩
    | scope => rfl
    | function | host => trivial
  links := fun m hlink => by
    have hget : (s.addClass cell).2.classes.get? s.classes.next = some cell :=
      s.classes.get?_add_next cell
    have hread : (s.addClass cell).2.classes.read s.classes.next = cell :=
      s.classes.read_add_next cell
    cases hlink with
    | birth h =>
      rw [Carrier.toValue, birthClass?, hget] at h
      cases h
      exact .inr (.inl rfl)
    | eigenclass h => exact .inl (.eigenclass h)
    | superclass h =>
      rw [superclass?, hread] at h
      exact .inr (.inr ⟨_, h, rfl⟩)
    | method h _ =>
      rw [localMethod?, hread, hcell] at h
      cases h
  grows := s.grows_addClass cell
  serial := Nat.le_refl _

theorem touches_attach {carrier : Carrier} (e : ClassRef) (h : s.carried? carrier = none) :
    s.Touches core (s.attach carrier e) (.object carrier) fun m => m = .object (.cls e) where
  other := fun n hn => by
    cases n with
    | object other =>
      have hne : other ≠ carrier := by
        rintro rfl
        exact hn rfl
      have hcarried : (s.attach carrier e).carried? other = s.carried? other := by
        rw [carried?_attach, if_neg hne]
      cases other <;> exact ⟨rfl, hcarried⟩
    | scope => rfl
    | function | host => trivial
  links := fun m hlink => by
    cases hlink with
    | element h hnode => exact .inl (.element h hnode)
    | ivar h hnode => exact .inl (.ivar h hnode)
    | @birth _ c h =>
      have hbirth : s.birthClass? core carrier.toValue = some c := by
        cases carrier <;> exact h
      exact .inl (.birth hbirth)
    | eigenclass h =>
      rw [carried?_attach, if_pos rfl] at h
      cases h
      exact .inr rfl
    | superclass h => exact .inl (.superclass h)
    | method h hnode => exact .inl (.method h hnode)
  grows := grows_attach e h
  serial := Nat.le_refl _

theorem touches_newScope (s : Store) (parent? : Option ScopeRef) :
    s.Touches core (s.newScope parent?).2 (.scope s.scopes.next)
      fun m => ∃ parent, parent? = some parent ∧ m = .scope parent where
  other := fun n hn => by
    cases n with
    | object carrier => cases carrier <;> exact ⟨rfl, rfl⟩
    | scope scope =>
      refine s.scopes.get?_add_of_ne _ ?_
      rintro rfl
      exact hn rfl
    | function | host => trivial
  links := fun m hlink => by
    cases hlink with
    | binding h _ =>
      rw [localValue?_newScope, if_pos rfl] at h
      cases h
    | parent h =>
      have hread : (s.newScope parent?).2.scopes.read s.scopes.next = ⟨∅, parent?⟩ :=
        s.scopes.read_add_next _
      rw [parentScope?, hread] at h
      exact .inr ⟨_, h, rfl⟩
  grows := s.grows_newScope parent?
  serial := Nat.le_refl _

theorem touches_setVar (s : Store) (scope : ScopeRef) (name : String) (value : Value) :
    s.Touches core (s.setVar scope name value) (.scope scope)
      fun m => value.node? = some m where
  other := fun n hn => by
    cases n with
    | object carrier => cases carrier <;> exact ⟨rfl, rfl⟩
    | scope other =>
      refine s.scopes.get?_modify_of_ne _ ?_
      rintro rfl
      exact hn rfl
    | function | host => trivial
  links := fun m hlink => by
    cases hlink with
    | @binding _ key _ _ h hnode =>
      rcases Nat.lt_or_ge scope.index s.scopes.size with hin | hout
      · rw [localValue?_setVar s name value hin] at h
        split at h
        · cases h
          exact .inr hnode
        · exact .inl (.binding h hnode)
      · rw [setVar, Cells.modify_of_size_le _ _ hout] at h
        exact .inl (.binding h hnode)
    | parent h =>
      rw [parentScope?_setVar] at h
      exact .inl (.parent h)
  grows := s.grows_setVar scope name value
  serial := Nat.le_refl _

theorem touches_setIvar (s : Store) (ref : ObjectRef) (name : String) (value : Value) :
    s.Touches core (s.setIvar ref name value) (.object (.object ref))
      fun m => value.node? = some m where
  other := fun n hn => by
    cases n with
    | object carrier =>
      cases carrier with
      | object other =>
        refine ⟨s.objects.get?_modify_of_ne _ ?_, rfl⟩
        rintro rfl
        exact hn rfl
      | _ => exact ⟨rfl, rfl⟩
    | scope => rfl
    | function | host => trivial
  links := fun m hlink => by
    cases hlink with
    | @ivar _ key _ _ h hnode =>
      rcases Nat.lt_or_ge ref.index s.objects.size with hin | hout
      · rw [ivar?_setIvar s name value hin] at h
        split at h
        · cases h
          exact .inr hnode
        · exact .inl (.ivar h hnode)
      · rw [setIvar, Cells.modify_of_size_le _ _ hout] at h
        exact .inl (.ivar h hnode)
    | birth h =>
      have hget : (s.setIvar ref name value).objects.get? ref = _ := s.objects.get?_modify ref ref _
      rw [Carrier.toValue, birthClass?, hget, if_pos rfl, Option.map_map] at h
      exact .inl (.birth h)
    | eigenclass h => exact .inl (.eigenclass h)
  grows := s.grows_setIvar ref name value
  serial := Nat.le_refl _

/-! ### Walks -/

/-- The scopes around a scope are linked to it. -/
theorem links_scopeChain {scope outer : ScopeRef} (h : outer ∈ s.scopeChain scope) :
    s.Links core (.scope scope) (.scope outer) := by
  fun_induction scopeChain s scope with
  | case1 scope ih =>
    rcases List.mem_cons.1 h with rfl | h
    · exact .refl
    · cases hparent : s.parentScope? scope with
      | none =>
        rw [hparent] at h
        cases h
      | some parent =>
        rw [hparent] at h
        by_cases older : parent.index < scope.index
        · simp only [older, dite_true] at h
          exact .head (.parent hparent) (ih parent older h)
        · simp only [older, dite_false, List.not_mem_nil] at h

/-- So are the superclasses to a class. -/
theorem links_lineage {c d : ClassRef} (h : d ∈ s.lineage c) :
    s.Links core (.object (.cls c)) (.object (.cls d)) := by
  fun_induction lineage s c with
  | case1 c ih =>
    rcases List.mem_cons.1 h with rfl | h
    · exact .refl
    · cases hparent : s.superclass? c with
      | none =>
        rw [hparent] at h
        cases h
      | some parent =>
        rw [hparent] at h
        by_cases older : parent.index < c.index
        · simp only [older, dite_true] at h
          exact .head (.superclass hparent) (ih parent older h)
        · simp only [older, dite_false, List.not_mem_nil] at h

/-- The scope in which an assignment takes effect is linked to that of the assignment. -/
theorem links_assignee (s : Store) (scope : ScopeRef) (name : String) :
    s.Links core (.scope scope) (.scope (s.assignee scope name)) := by
  unfold assignee
  cases hfound : (s.scopeChain scope).find? fun outer => s.binds outer name with
  | none => exact .refl
  | some outer => exact links_scopeChain (List.mem_of_find?_eq_some hfound)

/-- What a name means is linked to the scope. -/
theorem links_valueOf? {scope : ScopeRef} {name : String} {value : Value} {node : Node}
    (h : s.valueOf? scope name = some value) (hnode : value.node? = some node) :
    s.Links core (.scope scope) node := by
  obtain ⟨outer, houter, hlocal⟩ := List.exists_of_findSome?_eq_some h
  exact (links_scopeChain houter).tail (.binding hlocal hnode)

/-- A birth class is a core class, or linked to what the value refers to. -/
theorem link_birthClass? {value : Value} {c : ClassRef}
    (h : s.birthClass? core value = some c) :
    c ∈ core.classes ∨
      ∃ node, value.node? = some node ∧ s.Link core node (.object (.cls c)) := by
  induction value with
  | object ref => exact .inr ⟨.object (.object ref), rfl, .birth h⟩
  | exception ref => exact .inr ⟨.object (.exception ref), rfl, .birth h⟩
  | cls ref => exact .inr ⟨.object (.cls ref), rfl, .birth h⟩
  | pending _ _ ih => exact ih h
  | bool b => cases b <;> cases h <;> simp [Core.classes, Core.all]
  | function | builtin | fault => cases h
  | nil | int | symbol | string | array =>
    cases h
    simp [Core.classes, Core.all]

/-- So is the class where a lookup for the value starts. -/
theorem link_classOf? {value : Value} {c : ClassRef} (h : s.classOf? core value = some c) :
    c ∈ core.classes ∨
      ∃ node, value.node? = some node ∧ s.Link core node (.object (.cls c)) := by
  rw [classOf?_eq, Option.or_eq_some_iff] at h
  rw [← Value.node?_payload]
  rcases h with heigenclass | ⟨-, hbirth⟩
  · obtain ⟨carrier, heq, hcarried⟩ := eigenclass?_eq_some_iff.1 heigenclass
    rw [heq]
    exact .inr ⟨.object carrier, carrier.node?_toValue, .eigenclass hcarried⟩
  · exact link_birthClass? hbirth

/-- A method that is found for a receiver is linked to it, or to a core class. -/
theorem links_methodFor {receiver : Value} {name : String} {found : Found} {node : Node}
    (h : s.methodFor core receiver name = .ok found) (hnode : found.method.node? = some node) :
    ∃ start, ((∃ c ∈ core.classes, start = .object (.cls c)) ∨ receiver.node? = some start) ∧
      s.Links core start node := by
  obtain ⟨c, hclass, hresolve⟩ := methodFor_ok_iff.1 h
  obtain ⟨before, after, hsplit, -, hmethod⟩ := resolve?_eq_some_iff.1 hresolve
  have howner : found.owner ∈ s.lineage c := by
    rw [hsplit]
    simp
  have hfound : s.Links core (.object (.cls c)) node :=
    (links_lineage howner).tail (.method hmethod hnode)
  rcases link_classOf? hclass with hcore | ⟨start, hstart, hlink⟩
  · exact ⟨_, .inl ⟨c, hcore, rfl⟩, hfound⟩
  · exact ⟨start, .inr hstart, .head hlink hfound⟩

end Store

end ObjectModel
