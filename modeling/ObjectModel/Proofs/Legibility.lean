import Mathlib
import ObjectModel.Proofs.Bisimulation
import ObjectModel.Proofs.Rendering

/-!
# What a text tells

Values that are equal have the same text, as long as it shows them in full.  For data, which are
`nil`, truth values, integers, strings and arrays of data, the text in turn tells which value it is
the text of: nothing that a string may contain makes it look like something else.

The reason is that every piece of a text shows by itself where it ends.  An escape begins with a
backslash and goes on for one letter, or up to a brace; a string goes on up to a double quote that
is no part of an escape; a numeral goes on as far as there are digits; an array goes on up to the
bracket that closes it, with a comma after each element but the last.  So two texts that agree, with
anything after them that may follow a datum, are texts of the same datum with the same after it.

## Main definitions

* `Quoted.Escaped` — the three ways of writing a character.
* `Store.IsData` — data.
* `Closes` — what may follow a datum.

## Main results

* `Quoted.escape_append_inj`, `Quoted.quote_append_inj` — where an escape and a string end.
* `closed_append_inj` — where an array ends.
* `Store.inspect_append_inj` — where a datum ends.
* `Store.inspect_faithful` — equality of values, and of their texts.
-/

namespace ObjectModel

/-! ### Digits -/

theorem exists_digitChar_of_mem_toDigits {base n : Nat} {c : Char} (hbase : 1 < base)
    (h : c ∈ Nat.toDigits base n) : ∃ digit < base, c = digit.digitChar := by
  induction n using Nat.strongRecOn with
  | ind n ih =>
    rw [Nat.toDigits_eq_if hbase] at h
    split at h
    · next hlt => exact ⟨n, hlt, List.mem_singleton.1 h⟩
    · next hle =>
      rcases List.mem_append.1 h with h | h
      · exact ih (n / base) (Nat.div_lt_self (by omega) hbase) h
      · exact ⟨n % base, Nat.mod_lt _ (by omega), List.mem_singleton.1 h⟩

theorem digitChar_inj {m n : Nat} (hm : m < 16) (hn : n < 16) (h : m.digitChar = n.digitChar) :
    m = n := by
  have hall : ∀ m < 16, ∀ n < 16, m.digitChar = n.digitChar → m = n := by decide
  exact hall m hm n hn h

/-- A numeral determines the number. -/
theorem toDigits_inj {base m n : Nat} (hbase : 1 < base) (hle : base ≤ 16)
    (h : Nat.toDigits base m = Nat.toDigits base n) : m = n := by
  induction m using Nat.strongRecOn generalizing n with
  | ind m ih =>
    have hne (k : Nat) : Nat.toDigits base k ≠ [] := Nat.toDigits_ne_nil
    rw [Nat.toDigits_eq_if hbase, Nat.toDigits_eq_if hbase (n := n)] at h
    split at h
    · split at h
      · exact digitChar_inj (by omega) (by omega) (List.singleton_inj.1 h)
      · exact absurd (List.append_eq_singleton_iff.1 h.symm) (by simp [hne])
    · split at h
      · exact absurd (List.append_eq_singleton_iff.1 h) (by simp [hne])
      · obtain ⟨hhigh, hlow⟩ := List.append_inj' h rfl
        have hdiv := ih (m / base) (Nat.div_lt_self (by omega) hbase) hhigh
        have hmod : m % base = n % base := by
          have hm := Nat.mod_lt m (by omega : base > 0)
          have hn := Nat.mod_lt n (by omega : base > 0)
          exact digitChar_inj (by omega) (by omega) (List.singleton_inj.1 hlow)
        rw [← Nat.div_add_mod m base, ← Nat.div_add_mod n base, hdiv, hmod]

/-- What goes on as far as there are characters of one sort ends where these do. -/
theorem append_inj_of_all {p : Char → Bool} {xs ys r r' : List Char}
    (hxs : ∀ c ∈ xs, p c = true) (hys : ∀ c ∈ ys, p c = true)
    (hr : ∀ c ∈ r.head?, p c = false) (hr' : ∀ c ∈ r'.head?, p c = false)
    (h : xs ++ r = ys ++ r') : xs = ys ∧ r = r' := by
  have hspan (zs q : List Char) (hzs : ∀ c ∈ zs, p c = true) (hq : ∀ c ∈ q.head?, p c = false) :
      (zs ++ q).takeWhile p = zs := by
    rw [List.takeWhile_append_of_pos hzs]
    cases q with
    | nil => simp
    | cons c q => simp [hq c rfl]
  have hsame : xs = ys := by rw [← hspan xs r hxs hr, h, hspan ys r' hys hr']
  subst hsame
  exact ⟨rfl, List.append_cancel_left h⟩

/-! ### Quoted text -/

namespace Quoted

/-- The characters that are escaped by a letter, with the letter. -/
def letters : List (Char × Char) :=
  [('\x00', '0'), ('\t', 't'), ('\r', 'r'), ('\n', 'n'), ('\\', '\\'), ('"', '"')]

/-- A character is escaped by a letter or by its number, or stands for itself. -/
inductive Escaped : Char → List Char → Prop
  | letter {c letter : Char} (h : (c, letter) ∈ letters) : Escaped c ['\\', letter]
  | number {c : Char} : Escaped c (escapeByNumber c)
  | self {c : Char} (h : c ≠ '\\') (hquote : c ≠ '"') : Escaped c [c]

theorem escaped_escape (c : Char) : Escaped c (escape c) := by
  unfold escape
  split_ifs with hnul htab hreturn hnewline hbackslash hnumber
  · exact .letter (by simp [letters, hnul])
  · exact .letter (by simp [letters, htab])
  · exact .letter (by simp [letters, hreturn])
  · exact .letter (by simp [letters, hnewline])
  · exact .letter (by rcases hbackslash with rfl | rfl <;> simp [letters])
  · exact .number
  · exact .self (fun h => hbackslash (.inl h)) fun h => hbackslash (.inr h)

/-- No letter stands for two characters, and none announces a number. -/
theorem letters_inj {c d letter : Char} (hc : (c, letter) ∈ letters) (hd : (d, letter) ∈ letters) :
    c = d := by
  have hall : ∀ p ∈ letters, ∀ q ∈ letters, p.2 = q.2 → p.1 = q.1 := by decide
  exact hall _ hc _ hd rfl

theorem letter_ne_u {c letter : Char} (h : (c, letter) ∈ letters) : letter ≠ 'u' := by
  have hall : ∀ p ∈ letters, p.2 ≠ 'u' := by decide
  exact hall _ h

theorem escapeByNumber_append_inj {c d : Char} {r r' : List Char}
    (h : escapeByNumber c ++ r = escapeByNumber d ++ r') : c = d ∧ r = r' := by
  have hdigits (n : Nat) : ∀ x ∈ Nat.toDigits 16 n, (x != '\x7d') = true := by
    intro x hx
    obtain ⟨digit, hlt, rfl⟩ := exists_digitChar_of_mem_toDigits (by decide) hx
    have hall : ∀ digit < 16, (digit.digitChar != '\x7d') = true := by decide
    exact hall digit hlt
  simp only [escapeByNumber, List.cons_append, List.append_assoc, List.nil_append,
    List.cons.injEq, true_and] at h
  obtain ⟨hsame, hrest⟩ := append_inj_of_all (hdigits _) (hdigits _) (by simp) (by simp) h
  refine ⟨?_, (List.cons.inj hrest).2⟩
  rw [← Char.ofNat_toNat c, ← Char.ofNat_toNat d, toDigits_inj (by decide) (by decide) hsame]

/-- The written form of a character shows where it ends. -/
theorem escape_append_inj {c d : Char} {r r' : List Char}
    (h : escape c ++ r = escape d ++ r') : c = d ∧ r = r' := by
  have hc := escaped_escape c
  have hd := escaped_escape d
  generalize escape c = cs at h hc
  generalize escape d = ds at h hd
  cases hc with
  | letter hc =>
    cases hd with
    | letter hd =>
      simp only [List.cons_append, List.nil_append, List.cons.injEq, true_and] at h
      obtain ⟨rfl, hrest⟩ := h
      exact ⟨letters_inj hc hd, hrest⟩
    | number =>
      simp only [escapeByNumber, List.cons_append, List.nil_append, List.cons.injEq] at h
      exact absurd h.2.1 (letter_ne_u hc)
    | self hbackslash =>
      simp only [List.cons_append, List.nil_append, List.cons.injEq] at h
      exact absurd h.1.symm hbackslash
  | number =>
    cases hd with
    | letter hd =>
      simp only [escapeByNumber, List.cons_append, List.nil_append, List.cons.injEq] at h
      exact absurd h.2.1.symm (letter_ne_u hd)
    | number => exact escapeByNumber_append_inj h
    | self hbackslash =>
      simp only [escapeByNumber, List.cons_append, List.nil_append, List.cons.injEq] at h
      exact absurd h.1.symm hbackslash
  | self hbackslash =>
    cases hd with
    | letter =>
      simp only [List.cons_append, List.nil_append, List.cons.injEq] at h
      exact absurd h.1 hbackslash
    | number =>
      simp only [escapeByNumber, List.cons_append, List.nil_append, List.cons.injEq] at h
      exact absurd h.1 hbackslash
    | self => exact List.cons.inj h

/-- No written form of a character begins with a double quote. -/
theorem quote_cons_ne_escape_append (c : Char) (r r' : List Char) : '"' :: r ≠ escape c ++ r' := by
  have hc := escaped_escape c
  generalize escape c = cs at hc
  rintro h
  cases hc with
  | letter => cases h
  | number => cases h
  | self _ hquote => exact hquote (List.cons.inj h).1.symm

theorem flatMap_escape_append_inj {xs ys r r' : List Char}
    (h : xs.flatMap escape ++ '"' :: r = ys.flatMap escape ++ '"' :: r') : xs = ys ∧ r = r' := by
  induction xs generalizing ys with
  | nil =>
    cases ys with
    | nil => exact ⟨rfl, (List.cons.inj h).2⟩
    | cons d ys =>
      rw [List.flatMap_cons, List.append_assoc] at h
      exact absurd h (quote_cons_ne_escape_append d r _)
  | cons c xs ih =>
    rw [List.flatMap_cons, List.append_assoc] at h
    cases ys with
    | nil => exact absurd h.symm (quote_cons_ne_escape_append c r' _)
    | cons d ys =>
      rw [List.flatMap_cons, List.append_assoc] at h
      obtain ⟨rfl, htail⟩ := escape_append_inj h
      obtain ⟨rfl, hrest⟩ := ih htail
      exact ⟨rfl, hrest⟩

/-- The written form of a string shows where it ends. -/
theorem quote_append_inj {text other : String} {r r' : List Char}
    (h : (quote text).toList ++ r = (quote other).toList ++ r') : text = other ∧ r = r' := by
  simp only [toList_quote, List.cons_append, List.append_assoc, List.nil_append, List.cons.injEq,
    true_and] at h
  obtain ⟨hsame, hrest⟩ := flatMap_escape_append_inj h
  exact ⟨String.toList_inj.1 hsame, hrest⟩

end Quoted

/-! ### Lists -/

/-- What may follow a datum: nothing, a comma or a closing bracket. -/
def Closes (rest : List Char) : Prop := ∀ c ∈ rest.head?, c = ',' ∨ c = ']'

theorem toList_commaSeparated_cons (first : String) (rest : List String) :
    (commaSeparated (first :: rest)).toList =
      first.toList ++ rest.flatMap fun text => ',' :: ' ' :: text.toList := by
  induction rest generalizing first with
  | nil => simp [commaSeparated]
  | cons second rest ih =>
    have hsecond := ih second
    rw [commaSeparated] at hsecond ⊢
    rw [String.intercalate_cons_cons, String.toList_append, String.toList_append, hsecond]
    simp

section

variable {α : Type} {R : α → α → Prop} {write : α → String} {as bs : List α} {r r' : List Char}

theorem closes_flatMap (as : List α) (r : List Char) :
    Closes ((as.flatMap fun a => ',' :: ' ' :: (write a).toList) ++ ']' :: r) := by
  rintro c hc
  cases as with
  | nil =>
    cases hc
    exact .inr rfl
  | cons a as =>
    cases hc
    exact .inl rfl

theorem following_append_inj
    (h : ∀ a ∈ as, ∀ b ∈ bs, ∀ r r', Closes r → Closes r' →
      (write a).toList ++ r = (write b).toList ++ r' → R a b ∧ r = r')
    (heq : (as.flatMap fun a => ',' :: ' ' :: (write a).toList) ++ ']' :: r =
      (bs.flatMap fun b => ',' :: ' ' :: (write b).toList) ++ ']' :: r') :
    List.Forall₂ R as bs ∧ r = r' := by
  induction as generalizing bs with
  | nil =>
    cases bs with
    | nil => exact ⟨.nil, (List.cons.inj heq).2⟩
    | cons b bs => cases heq
  | cons a as ih =>
    cases bs with
    | nil => cases heq
    | cons b bs =>
      simp only [List.flatMap_cons, List.cons_append, List.append_assoc, List.cons.injEq,
        true_and] at heq
      obtain ⟨hab, hrest⟩ := h a List.mem_cons_self b List.mem_cons_self _ _
        (closes_flatMap as r) (closes_flatMap bs r') heq
      obtain ⟨htail, hrest⟩ := ih (fun a ha b hb => h a (List.mem_cons_of_mem _ ha) b
        (List.mem_cons_of_mem _ hb)) hrest
      exact ⟨.cons hab htail, hrest⟩

/-- A list in brackets shows where it ends, if what is in it shows where it ends and does not begin
with a closing bracket. -/
theorem closed_append_inj
    (hopen : ∀ x ∈ as ++ bs, ∃ c rest, (write x).toList = c :: rest ∧ c ≠ ']')
    (h : ∀ a ∈ as, ∀ b ∈ bs, ∀ r r', Closes r → Closes r' →
      (write a).toList ++ r = (write b).toList ++ r' → R a b ∧ r = r')
    (heq : (commaSeparated (as.map write)).toList ++ ']' :: r =
      (commaSeparated (bs.map write)).toList ++ ']' :: r') :
    List.Forall₂ R as bs ∧ r = r' := by
  cases as with
  | nil =>
    cases bs with
    | nil => exact ⟨.nil, (List.cons.inj (List.append_cancel_left heq)).2⟩
    | cons b bs =>
      obtain ⟨c, rest, hb, hc⟩ := hopen b List.mem_cons_self
      rw [List.map_cons, toList_commaSeparated_cons, hb] at heq
      exact absurd (List.cons.inj heq).1.symm hc
  | cons a as =>
    obtain ⟨c, rest, ha, hc⟩ := hopen a List.mem_cons_self
    cases bs with
    | nil =>
      rw [List.map_cons, toList_commaSeparated_cons, ha] at heq
      exact absurd (List.cons.inj heq).1 hc
    | cons b bs =>
      simp only [List.map_cons, toList_commaSeparated_cons, List.flatMap_map,
        List.append_assoc] at heq
      obtain ⟨hab, hrest⟩ := h a List.mem_cons_self b List.mem_cons_self _ _
        (closes_flatMap as r) (closes_flatMap bs r') heq
      obtain ⟨htail, hrest⟩ := following_append_inj (fun a ha b hb =>
        h a (List.mem_cons_of_mem _ ha) b (List.mem_cons_of_mem _ hb)) hrest
      exact ⟨.cons hab htail, hrest⟩

end

/-! ### Data -/

/-- The characters of decimal numerals. -/
def isNumeral (c : Char) : Bool := c.isDigit || c == '-'

theorem isNumeral_of_mem_repr {n : Int} {c : Char} (h : c ∈ n.repr.toList) :
    isNumeral c = true := by
  cases n with
  | ofNat m =>
    rw [Int.repr, Nat.toList_repr] at h
    simp [isNumeral, Nat.isDigit_of_mem_toDigits (by decide) (by decide) h]
  | negSucc m =>
    rw [Int.repr, String.toList_append, Nat.toList_repr, List.mem_append] at h
    rcases h with h | h
    · simp_all [isNumeral]
    · simp [isNumeral, Nat.isDigit_of_mem_toDigits (by decide) (by decide) h]

theorem Closes.not_isNumeral {rest : List Char} (h : Closes rest) :
    ∀ c ∈ rest.head?, isNumeral c = false := by
  intro c hc
  rcases h c hc with rfl | rfl <;> rfl

theorem toList_repr_ne_nil (n : Int) : n.repr.toList ≠ [] := by
  cases n with
  | ofNat m =>
    rw [Int.repr, Nat.toList_repr]
    exact Nat.toDigits_ne_nil
  | negSucc m => simp [Int.repr]

namespace Store

variable {s : Store} {a b : Value} {r r' : List Char}

/-- The value is `nil`, a truth value, an integer, a string, or an array of such values. -/
inductive IsData (s : Store) : Value → Prop
  | nil : IsData s .nil
  | bool (b : Bool) : IsData s (.bool b)
  | int (n : Int64) : IsData s (.int n)
  | string (ref : StringRef) : IsData s (.string ref)
  | array {ref : ArrayRef} (h : ∀ part ∈ s.elements ref, IsData s part) : IsData s (.array ref)

theorem IsData.acyclic (h : s.IsData a) : s.Acyclic a := by
  induction h with
  | array _ ih => exact acyclic_array ih
  | _ => exact acyclic_of_ownForm? rfl

theorem toList_inspect_array {ref : ArrayRef} (h : s.IsData (.array ref)) :
    (s.inspect (.array ref)).toList =
      '[' :: ((commaSeparated ((s.elements ref).map s.inspect)).toList ++ [']']) := by
  rw [h.acyclic.inspect_array]
  simp

/-- The category of data whose text begins with the character. -/
def announced (c : Char) : Tag :=
  if c = 'n' then .nil
  else if c = 't' ∨ c = 'f' then .boolean
  else if c = '"' then .string
  else if c = '[' then .array
  else .integer

theorem announced_of_isNumeral {c : Char} (h : isNumeral c = true) :
    c ≠ ']' ∧ announced c = .integer := by
  have hother : ∀ other ∈ ['n', 't', 'f', '"', '[', ']'], isNumeral other = false := by
    simp [isNumeral]
  have hne : ∀ other ∈ ['n', 't', 'f', '"', '[', ']'], c ≠ other := by
    rintro other hmem rfl
    exact absurd h (by simp [hother _ hmem])
  simp_all [announced]

/-- The text of data begins with a character that tells its category. -/
theorem IsData.toList_inspect (h : s.IsData a) :
    ∃ c rest, (s.inspect a).toList = c :: rest ∧ c ≠ ']' ∧ announced c = s.tagOf a := by
  cases h with
  | nil => exact ⟨'n', ['i', 'l'], by rw [inspect, inspectFrom]; rfl, by decide, rfl⟩
  | bool b =>
    cases b with
    | false => exact ⟨'f', _, by rw [inspect, inspectFrom]; rfl, by decide, rfl⟩
    | true => exact ⟨'t', _, by rw [inspect, inspectFrom]; rfl, by decide, rfl⟩
  | int n =>
    obtain ⟨c, rest, hrepr⟩ := List.exists_cons_of_ne_nil (toList_repr_ne_nil n.toInt)
    refine ⟨c, rest, by rw [inspect, inspectFrom, hrepr], ?_⟩
    exact announced_of_isNumeral (isNumeral_of_mem_repr (hrepr ▸ List.mem_cons_self))
  | string ref =>
    exact ⟨'"', _, by rw [inspect, inspectFrom, Quoted.toList_quote], by decide, rfl⟩
  | array h =>
    exact ⟨'[', _, toList_inspect_array (.array h), by decide, rfl⟩

theorem tagOf_eq_of_inspect_append (ha : s.IsData a) (hb : s.IsData b)
    (h : (s.inspect a).toList ++ r = (s.inspect b).toList ++ r') : s.tagOf a = s.tagOf b := by
  obtain ⟨c, rest, hc, -, htag⟩ := ha.toList_inspect
  obtain ⟨d, rest', hd, -, htag'⟩ := hb.toList_inspect
  rw [hc, hd] at h
  rw [← htag, ← htag', (List.cons.inj h).1]

/-- **The text of a datum shows where it ends**, and which datum it is the text of. -/
theorem inspect_append_inj (ha : s.IsData a) (hb : s.IsData b) (hr : Closes r) (hr' : Closes r')
    (h : (s.inspect a).toList ++ r = (s.inspect b).toList ++ r') :
    s.equal a b = true ∧ r = r' := by
  -- in each case the first character leaves one case for the other datum
  induction ha generalizing b r r' with
  | nil =>
    have hsame := tagOf_eq_of_inspect_append .nil hb h
    cases hb with
    | nil => exact ⟨s.equal_self _, List.append_cancel_left h⟩
    | _ => cases hsame
  | bool x =>
    have hsame := tagOf_eq_of_inspect_append (.bool x) hb h
    cases hb with
    | bool y =>
      have hxy : x = y := by
        cases x <;> cases y <;> first | rfl | simp [inspect, inspectFrom] at h
      subst hxy
      exact ⟨s.equal_self _, List.append_cancel_left h⟩
    | _ => cases hsame
  | int m =>
    have hsame := tagOf_eq_of_inspect_append (.int m) hb h
    cases hb with
    | int n =>
      rw [inspect, inspect, inspectFrom, inspectFrom] at h
      obtain ⟨hrepr, hrest⟩ := append_inj_of_all (fun c => isNumeral_of_mem_repr)
        (fun c => isNumeral_of_mem_repr) hr.not_isNumeral hr'.not_isNumeral h
      have hmn : m = n := Int64.toInt_inj.1 (Int.repr_injective (String.toList_inj.1 hrepr))
      exact ⟨hmn ▸ s.equal_self _, hrest⟩
    | _ => cases hsame
  | string x =>
    have hsame := tagOf_eq_of_inspect_append (.string x) hb h
    cases hb with
    | string y =>
      rw [inspect, inspect, inspectFrom, inspectFrom] at h
      obtain ⟨htext, hrest⟩ := Quoted.quote_append_inj h
      exact ⟨equal_of_matches (.string htext), hrest⟩
    | _ => cases hsame
  | @array x hx ih =>
    have hsame := tagOf_eq_of_inspect_append (.array hx) hb h
    cases hb with
    | @array y hy =>
      rw [toList_inspect_array (.array hx), toList_inspect_array (.array hy), List.cons_append,
        List.cons_append, List.append_assoc, List.append_assoc] at h
      -- no element begins with a closing bracket, so neither list is taken for the empty one
      have hopen : ∀ part ∈ s.elements x ++ s.elements y,
          ∃ c rest, (s.inspect part).toList = c :: rest ∧ c ≠ ']' := by
        intro part hpart
        have hdata : s.IsData part := (List.mem_append.1 hpart).elim (hx part) (hy part)
        obtain ⟨c, rest, htext, hc, -⟩ := hdata.toList_inspect
        exact ⟨c, rest, htext, hc⟩
      obtain ⟨helements, hrest⟩ := closed_append_inj hopen
        (fun part hpart other hother r r' => ih part hpart (hy other hother)) (List.cons.inj h).2
      exact ⟨equal_of_matches (.array helements), hrest⟩
    | _ => cases hsame

private theorem map_eq_of_forall₂ {f : Value → String} {R : Value → Value → Prop}
    {as bs : List Value} (h : List.Forall₂ R as bs)
    (hf : ∀ a ∈ as, ∀ b ∈ bs, R a b → f a = f b) : as.map f = bs.map f := by
  induction h with
  | nil => rfl
  | cons hhead _ ih =>
    rw [List.map_cons, List.map_cons, hf _ List.mem_cons_self _ List.mem_cons_self hhead,
      ih fun a ha b hb => hf a (List.mem_cons_of_mem _ ha) b (List.mem_cons_of_mem _ hb)]

/-- Values without cycles that are equal have the same text. -/
theorem Acyclic.inspect_eq (ha : s.Acyclic a) (hb : s.Acyclic b) (h : s.equal a b = true) :
    s.inspect a = s.inspect b := by
  induction ha using Acyclic.induction generalizing b with
  | step a ha ih =>
    cases s.isBisimulation_equal h with
    | array helements =>
      rw [ha.inspect_array, hb.inspect_array, map_eq_of_forall₂ helements]
      exact fun part hpart other hother => ih part (.element hpart) (hb.of_part (.element hother))
    | pending hpayload =>
      rw [inspect_pending, inspect_pending]
      exact ih _ .payload (hb.of_part .payload) hpayload
    | string htext => rw [inspect, inspect, inspectFrom, inspectFrom, htext]
    | fault hmessage =>
      rw [inspect, inspect, inspectFrom, inspectFrom, Fault.inspect, Fault.inspect, hmessage]
    | identical hsame => rw [(Value.identical_iff.1 hsame).2]

end Store

/-- **Equal values have the same text, and the text of a datum tells which one it is.**  In every
store, values without cycles that are equal have the same text; and data that have the same text are
equal, whatever their strings say and however deep their arrays go. -/
theorem Store.inspect_faithful (s : Store) :
    (∀ a b, s.Acyclic a → s.Acyclic b → s.equal a b = true → s.inspect a = s.inspect b) ∧
    ∀ a b, s.IsData a → s.IsData b → s.inspect a = s.inspect b → s.equal a b = true := by
  refine ⟨fun a b ha hb => ha.inspect_eq hb, fun a b ha hb h => ?_⟩
  have hnone : Closes [] := by rintro _ ⟨⟩
  exact (inspect_append_inj ha hb hnone hnone (congrArg (fun text => text.toList ++ []) h)).1

/-- A string that looks like two, the two that it looks like, and a copy of the first of these; then
arrays of the one and of the two, and arrays around the copies. -/
def Store.quoting : Store :=
  let s := ((Store.empty.newString "a\", \"b").2.newString "a").2
  let s := ((s.newString "b").2.newString "a").2
  let s := ((s.newArray [.string ⟨0⟩]).2.newArray [.string ⟨1⟩, .string ⟨2⟩]).2
  let s := ((s.newArray [.string ⟨1⟩]).2.newArray [.string ⟨3⟩]).2
  ((s.newArray [.array ⟨2⟩, .nil]).2.newArray [.array ⟨3⟩, .nil]).2

/-- One string in an array is not taken for two, and copies in arrays are not told apart. -/
theorem inspect_faithful_quoting :
    Store.quoting.inspect (.array ⟨0⟩) ≠ Store.quoting.inspect (.array ⟨1⟩) ∧
      Store.quoting.equal (.array ⟨4⟩) (.array ⟨5⟩) = true ∧
      Store.quoting.inspect (.array ⟨4⟩) = Store.quoting.inspect (.array ⟨5⟩) := by
  have hstring (ref : StringRef) : ∀ part ∈ [Value.string ref], Store.quoting.IsData part :=
    List.forall_mem_singleton.2 (.string ref)
  have hnil : ∀ part ∈ [Value.nil], Store.quoting.IsData part := List.forall_mem_singleton.2 .nil
  have hzero : Store.quoting.IsData (.array ⟨0⟩) := .array (hstring ⟨0⟩)
  have hone : Store.quoting.IsData (.array ⟨1⟩) :=
    .array (List.forall_mem_cons.2 ⟨.string ⟨1⟩, hstring ⟨2⟩⟩)
  have htwo : Store.quoting.IsData (.array ⟨2⟩) := .array (hstring ⟨1⟩)
  have hthree : Store.quoting.IsData (.array ⟨3⟩) := .array (hstring ⟨3⟩)
  have hfour : Store.quoting.IsData (.array ⟨4⟩) := .array (List.forall_mem_cons.2 ⟨htwo, hnil⟩)
  have hfive : Store.quoting.IsData (.array ⟨5⟩) := .array (List.forall_mem_cons.2 ⟨hthree, hnil⟩)
  -- the texts of the copies are worked out from inside, which leaves the escapes alone
  have hcopies : Store.quoting.inspect (.string ⟨1⟩) = Store.quoting.inspect (.string ⟨3⟩) := by
    rw [Store.inspect, Store.inspect, Store.inspectFrom, Store.inspectFrom]
    rfl
  have hinner : Store.quoting.inspect (.array ⟨2⟩) = Store.quoting.inspect (.array ⟨3⟩) := by
    rw [htwo.acyclic.inspect_array, hthree.acyclic.inspect_array]
    exact congrArg (fun text => "[" ++ commaSeparated [text] ++ "]") hcopies
  have hsame : Store.quoting.inspect (.array ⟨4⟩) = Store.quoting.inspect (.array ⟨5⟩) := by
    rw [hfour.acyclic.inspect_array, hfive.acyclic.inspect_array]
    exact congrArg (fun text => "[" ++ commaSeparated [text, Store.quoting.inspect .nil] ++ "]")
      hinner
  obtain ⟨hfaithful, htells⟩ := Store.quoting.inspect_faithful
  have hequal : Store.quoting.equal (.array ⟨4⟩) (.array ⟨5⟩) = true := htells _ _ hfour hfive hsame
  refine ⟨fun hlike => ?_, hequal, hfaithful _ _ hfour.acyclic hfive.acyclic hequal⟩
  have hdiffer : Store.quoting.equal (.array ⟨0⟩) (.array ⟨1⟩) = false := by cbv
  rw [htells _ _ hzero hone hlike] at hdiffer
  cases hdiffer

end ObjectModel
