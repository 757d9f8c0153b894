import ObjectModel.Proofs.Frame

/-!
# The course of a run

A run as the list of all that happens in it, one after the other: a frame begins, the frames that it
starts take their course in their order, and then it ends.  The list is finite although bodies call
each other, because what a frame starts is nested deeper or is a smaller piece of a program.

## Main definitions

* `Event` — a frame begins, or ends.
* `Frame.Below` — the order in which frames get smaller.
* `Frame.course` — what happens in the course of a frame.

## Main results

* `Frame.below_of_mem_parts` — what a frame starts is smaller than it.
* `Frame.mem_course` — what begins and ends in the course of a frame are the frames that are started
  in it.
-/

namespace ObjectModel

/-- How much of a program is left to evaluate.  A body begins anew, so messages and calls, which
start it, weigh more than it. -/
noncomputable def Task.weight : Task → Nat
  | .expr _ e => sizeOf e + 1
  | .exprs _ es => sizeOf es + 1
  | .stmt _ statement => sizeOf statement + 1
  | .stmts _ _ statements => sizeOf statements + 1
  | .send _ _ _ | .call _ _ => 1
  | .body _ _ _ => 0

/-- Something that happens in a run. -/
inductive Event where
  | begins (f : Frame)
  | ends (f : Frame)

namespace Frame

variable {core : Core} {host : Host} {f g : Frame}

/-! ### Frames get smaller -/

/-- A frame is smaller than another if bodies may nest less deep in it, or natives may, or less is
left to evaluate. -/
def Below (g f : Frame) : Prop :=
  Prod.Lex (· < ·) (Prod.Lex (· < ·) (· < ·)) (g.calls, g.natives, g.task.weight)
    (f.calls, f.natives, f.task.weight)

theorem next_below {task : Task} {store : Store} (h : task.weight < f.task.weight) :
    (f.next task store).Below f :=
  .right _ (.right _ h)

theorem below_of_mem_operandParts {scope : ScopeRef} {operand : Expr} {args : List Expr}
    {task : Value → List Value → Task} (hoperand : sizeOf operand + 1 < f.task.weight)
    (hargs : sizeOf args + 1 < f.task.weight)
    (htask : ∀ value values, (task value values).weight < f.task.weight)
    (hg : g ∈ f.operandParts core host scope operand args task) : g.Below f := by
  rcases List.mem_cons.1 hg with rfl | hg
  · exact next_below hoperand
  obtain ⟨value, t, -, hg⟩ := mem_after.1 hg
  rcases List.mem_cons.1 hg with rfl | hg
  · exact next_below hargs
  obtain ⟨values, u, -, hg⟩ := mem_after.1 hg
  cases List.mem_singleton.1 hg
  exact next_below (htask value values)

theorem below_of_mem_exprParts {scope : ScopeRef} {e : Expr} (hweight : sizeOf e < f.task.weight)
    (hg : g ∈ f.exprParts core host scope e) : g.Below f := by
  have hmessage : 1 < f.task.weight := by
    cases e <;> simp at hweight <;> omega
  cases e with
  | ident name =>
    rw [exprParts] at hg
    split at hg
    · cases List.mem_singleton.1 hg
      exact next_below hmessage
    · cases hg
  | assign target value =>
    simp only [Expr.assign.sizeOf_spec] at hweight
    have hvalue : sizeOf value + 1 < f.task.weight := by omega
    cases List.mem_singleton.1 hg
    exact next_below hvalue
  | send receiver name args =>
    simp only [Expr.send.sizeOf_spec] at hweight
    have hreceiver : sizeOf receiver + 1 < f.task.weight := by omega
    have hargs : sizeOf args + 1 < f.task.weight := by omega
    refine below_of_mem_operandParts hreceiver hargs ?_ hg
    exact fun _ _ => hmessage
  | sendSelf name args =>
    simp only [Expr.sendSelf.sizeOf_spec] at hweight
    have hargs : sizeOf args + 1 < f.task.weight := by omega
    rcases List.mem_cons.1 hg with rfl | hg
    · exact next_below hargs
    obtain ⟨xs, t, -, hg⟩ := mem_after.1 hg
    cases List.mem_singleton.1 hg
    exact next_below hmessage
  | call callee args =>
    simp only [Expr.call.sizeOf_spec] at hweight
    have hcallee : sizeOf callee + 1 < f.task.weight := by omega
    have hargs : sizeOf args + 1 < f.task.weight := by omega
    refine below_of_mem_operandParts hcallee hargs ?_ hg
    exact fun _ _ => hmessage
  | _ => cases hg

theorem below_of_mem_methodParts {natives : Nat} {receiver : Value} {method : Method}
    {args : List Value} (hnatives : natives < f.natives) (hweight : 0 < f.task.weight)
    (hg : g ∈ f.methodParts natives receiver method args) : g.Below f := by
  unfold methodParts at hg
  split at hg
  · split at hg
    · cases List.mem_singleton.1 hg
      exact next_below hweight
    · cases hg
  · split at hg
    · split at hg
      · cases hg
      · split at hg
        · cases List.mem_singleton.1 hg
          exact .right _ (.left _ _ hnatives)
        · cases hg
    · cases hg
  · cases hg

theorem below_of_mem_sendParts {receiver : Value} {name : String} {args : List Value}
    (hweight : 0 < f.task.weight) (hg : g ∈ f.sendParts core receiver name args) : g.Below f := by
  unfold sendParts at hg
  split at hg
  · cases hg
  · next natives hnatives =>
    split at hg
    · cases hg
    · split at hg
      · exact below_of_mem_methodParts (by omega) hweight hg
      · cases hg

theorem below_of_mem_callParts {callee : Value} {args : List Value} (hweight : 0 < f.task.weight)
    (hg : g ∈ f.callParts callee args) : g.Below f := by
  unfold callParts at hg
  split at hg
  · cases hg
  · split at hg
    · split at hg
      · cases List.mem_singleton.1 hg
        exact next_below hweight
      · cases hg
    · cases hg

theorem below_of_mem_bodyParts {closure : Closure} {receiver? : Option Value} {args : List Value}
    (hg : g ∈ f.bodyParts closure receiver? args) : g.Below f := by
  unfold bodyParts at hg
  split at hg
  · cases hg
  · next calls hcalls =>
    have hlt : calls < f.calls := by omega
    cases List.mem_singleton.1 hg
    exact .left _ _ hlt

/-- **What a frame starts is smaller than it.** -/
theorem below_of_mem_parts (hg : g ∈ f.parts core host) : g.Below f := by
  obtain ⟨task, calls, natives, store⟩ := f
  cases task with
  | expr scope e => exact below_of_mem_exprParts (Nat.lt_succ_self _) hg
  | exprs scope es =>
    cases es with
    | nil => cases hg
    | cons e es =>
      rcases List.mem_cons.1 hg with rfl | hg
      · refine next_below ?_
        simp only [Task.weight, List.cons.sizeOf_spec]
        omega
      obtain ⟨x, t, -, hg⟩ := mem_after.1 hg
      cases List.mem_singleton.1 hg
      refine next_below ?_
      simp only [Task.weight, List.cons.sizeOf_spec]
      omega
  | stmt scope statement =>
    cases statement with
    | expr e | ret e =>
      cases List.mem_singleton.1 hg
      refine next_below ?_
      simp [Task.weight]
    | retNil => cases hg
  | stmts scope last statements =>
    cases statements with
    | nil => cases hg
    | cons statement statements =>
      rcases List.mem_cons.1 hg with rfl | hg
      · refine next_below ?_
        simp only [Task.weight, List.cons.sizeOf_spec]
        omega
      obtain ⟨value, t, -, hg⟩ := mem_after.1 hg
      cases List.mem_singleton.1 hg
      refine next_below ?_
      simp only [Task.weight, List.cons.sizeOf_spec]
      omega
  | send receiver name args => exact below_of_mem_sendParts Nat.one_pos hg
  | call callee args => exact below_of_mem_callParts Nat.one_pos hg
  | body closure receiver? args => exact below_of_mem_bodyParts hg

/-! ### The course of a frame -/

/-- What happens in the course of a frame, from its beginning to its end. -/
def course (core : Core) (host : Host) (f : Frame) : List Event :=
  .begins f :: ((f.parts core host).attach.flatMap (fun g => course core host g.1) ++ [.ends f])
termination_by (f.calls, f.natives, f.task.weight)
decreasing_by exact below_of_mem_parts g.2

theorem course_eq (core : Core) (host : Host) (f : Frame) :
    f.course core host =
      .begins f :: ((f.parts core host).flatMap (course core host) ++ [.ends f]) := by
  rw [course]
  simp

/-- **What happens in the course of a frame** is that the frames begin and end that are started in
it. -/
theorem mem_course {event : Event} : event ∈ f.course core host ↔
    ∃ g, During core host f g ∧ (event = .begins g ∨ event = .ends g) := by
  constructor
  · intro hevent
    induction f using course.induct core host with
    | case1 f ih =>
      rw [course_eq] at hevent
      rcases List.mem_cons.1 hevent with rfl | hevent
      · exact ⟨f, .refl, .inl rfl⟩
      rcases List.mem_append.1 hevent with hparts | hend
      · obtain ⟨part, hpart, hevent⟩ := List.mem_flatMap.1 hparts
        obtain ⟨g, hduring, hg⟩ := ih ⟨part, hpart⟩ hevent
        exact ⟨g, .head hpart hduring, hg⟩
      · exact ⟨f, .refl, .inr (List.mem_singleton.1 hend)⟩
  · rintro ⟨g, hduring, hg⟩
    induction hduring using Relation.ReflTransGen.head_induction_on with
    | refl =>
      rw [course_eq]
      rcases hg with rfl | rfl <;> simp
    | head hpart _ ih =>
      rw [course_eq]
      have hparts := List.mem_flatMap.2 ⟨_, hpart, ih⟩
      exact List.mem_cons_of_mem _ (List.mem_append_left _ hparts)

theorem begins_mem_course : .begins g ∈ f.course core host ↔ During core host f g := by
  simp [mem_course]

theorem ends_mem_course : .ends g ∈ f.course core host ↔ During core host f g := by
  simp [mem_course]

end Frame

end ObjectModel
