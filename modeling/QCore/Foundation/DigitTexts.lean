import Mathlib.Data.List.Basic

/-!
# Half bytes written in decimal

A list of numbers below 16 is written as a text of decimal digits, with nothing
between the numbers.  The numbers from 10 on take two digits, so a text can come
from several lists.

A place of a text where 1 is followed by one of 0 to 5 can be read as one number
or as two.  All lists for one text differ in which places they read as one
number.  This decides for which lists the text says which list it was, among
lists of a least length and the same parity.
-/

namespace QCore
namespace Foundation
namespace DigitTexts

def spellOne (n : Nat) : List Nat :=
  if n < 10 then [n] else [1, n - 10]

def spell (ns : List Nat) : List Nat :=
  ns.flatMap spellOne

def large : List Nat -> Nat
  | [] => 0
  | n :: ns => (if n < 10 then 0 else 1) + large ns

/-- The two digits can be read as one number. -/
abbrev Place (a b : Nat) : Prop :=
  a = 1 ∧ b < 6

def places : List Nat -> Nat
  | [] => 0
  | [_] => 0
  | a :: b :: rest => (if Place a b then 1 else 0) + places (b :: rest)

def disjointPlaces : List Nat -> Nat
  | [] => 0
  | [_] => 0
  | a :: b :: rest =>
      if Place a b then 1 + disjointPlaces rest else disjointPlaces (b :: rest)

def Hex (ns : List Nat) : Prop :=
  forall n, n ∈ ns -> n < 16

def Decimal (ns : List Nat) : Prop :=
  forall n, n ∈ ns -> n < 10

/-!
## Texts and lengths
-/

@[simp] theorem spell_nil : spell [] = [] := rfl

theorem spell_small {n : Nat} (h : n < 10) (ns : List Nat) :
    spell (n :: ns) = n :: spell ns := by
  simp [spell, spellOne, h]

theorem spell_large {n : Nat} (h : ¬ n < 10) (ns : List Nat) :
    spell (n :: ns) = 1 :: (n - 10) :: spell ns := by
  simp [spell, spellOne, h]

theorem large_small {n : Nat} (h : n < 10) (ns : List Nat) :
    large (n :: ns) = large ns := by
  rw [large, if_pos h, Nat.zero_add]

theorem large_large {n : Nat} (h : ¬ n < 10) (ns : List Nat) :
    large (n :: ns) = 1 + large ns := by
  rw [large, if_neg h]

theorem length_spell (ns : List Nat) :
    (spell ns).length = ns.length + large ns := by
  induction ns with
  | nil => rfl
  | cons n ns ih =>
      by_cases hn : n < 10
      · rw [spell_small hn, large_small hn, List.length_cons, List.length_cons,
          ih]
        lia
      · rw [spell_large hn, large_large hn, List.length_cons, List.length_cons,
          List.length_cons, ih]
        lia

theorem Hex.tail {n : Nat} {ns : List Nat} (h : Hex (n :: ns)) : Hex ns :=
  fun m hm => h m (List.mem_cons_of_mem n hm)

theorem Hex.cons {n : Nat} {ns : List Nat} (hn : n < 16) (h : Hex ns) :
    Hex (n :: ns) :=
  List.forall_mem_cons.mpr ⟨hn, h⟩

theorem Hex.place {n : Nat} {ns : List Nat} (h : Hex (n :: ns)) :
    Place 1 (n - 10) := by
  have hlt := h n List.mem_cons_self
  exact ⟨rfl, by lia⟩

theorem Decimal.tail {n : Nat} {ns : List Nat} (h : Decimal (n :: ns)) :
    Decimal ns :=
  fun m hm => h m (List.mem_cons_of_mem n hm)

theorem Decimal.hex {ns : List Nat} (h : Decimal ns) : Hex ns :=
  fun n hn => Nat.lt_trans (h n hn) (by lia)

theorem Decimal.spell_eq {ns : List Nat} (h : Decimal ns) : spell ns = ns := by
  induction ns with
  | nil => rfl
  | cons n ns ih => rw [spell_small (h n List.mem_cons_self), ih h.tail]

theorem Decimal.large_eq {ns : List Nat} (h : Decimal ns) : large ns = 0 := by
  induction ns with
  | nil => rfl
  | cons n ns ih => rw [large_small (h n List.mem_cons_self), ih h.tail]

theorem decimal_of_large {ns : List Nat} (h : large ns = 0) : Decimal ns := by
  induction ns with
  | nil =>
      intro n hn
      cases hn
  | cons n ns ih =>
      by_cases hn : n < 10
      · rw [large_small hn] at h
        exact List.forall_mem_cons.mpr ⟨hn, ih h⟩
      · rw [large_large hn] at h
        lia

theorem spell_decimal {ns : List Nat} (h : Hex ns) : Decimal (spell ns) := by
  induction ns with
  | nil =>
      intro n hn
      cases hn
  | cons n ns ih =>
      by_cases hn : n < 10
      · rw [spell_small hn]
        exact List.forall_mem_cons.mpr ⟨hn, ih h.tail⟩
      · have hplace := h.place
        rw [spell_large hn]
        refine List.forall_mem_cons.mpr ⟨by lia, ?_⟩
        exact List.forall_mem_cons.mpr ⟨by lia, ih h.tail⟩

/-!
## Places
-/

theorem places_le_cons (a : Nat) (text : List Nat) :
    places text <= places (a :: text) := by
  cases text with
  | nil => exact Nat.zero_le _
  | cons b rest =>
      rw [places]
      exact Nat.le_add_left _ _

theorem places_place {a b : Nat} (h : Place a b) (rest : List Nat) :
    places (a :: b :: rest) = 1 + places (b :: rest) := by
  rw [places, if_pos h]

theorem large_le_places {ns : List Nat} (h : Hex ns) :
    large ns <= places (spell ns) := by
  induction ns with
  | nil => exact Nat.zero_le _
  | cons n ns ih =>
      have hrest := ih h.tail
      by_cases hn : n < 10
      · rw [spell_small hn, large_small hn]
        exact Nat.le_trans hrest (places_le_cons n _)
      · rw [spell_large hn, large_large hn, places_place h.place]
        exact Nat.add_le_add_left
          (Nat.le_trans hrest (places_le_cons (n - 10) _)) 1

theorem disjointPlaces_place {a b : Nat} (h : Place a b) (rest : List Nat) :
    disjointPlaces (a :: b :: rest) = 1 + disjointPlaces rest := by
  rw [disjointPlaces, if_pos h]

theorem disjointPlaces_cons (text : List Nat) :
    forall a, disjointPlaces text <= disjointPlaces (a :: text) ∧
      disjointPlaces (a :: text) <= 1 + disjointPlaces text := by
  induction text with
  | nil =>
      intro a
      exact ⟨Nat.zero_le _, Nat.zero_le _⟩
  | cons b rest ih =>
      intro a
      have hrest := ih b
      by_cases hplace : Place a b
      · rw [disjointPlaces_place hplace]
        lia
      · rw [show disjointPlaces (a :: b :: rest) = disjointPlaces (b :: rest) by
          rw [disjointPlaces, if_neg hplace]]
        lia

theorem large_le_disjointPlaces {ns : List Nat} (h : Hex ns) :
    large ns <= disjointPlaces (spell ns) := by
  induction ns with
  | nil => exact Nat.zero_le _
  | cons n ns ih =>
      have hrest := ih h.tail
      by_cases hn : n < 10
      · rw [spell_small hn, large_small hn]
        exact Nat.le_trans hrest (disjointPlaces_cons _ n).left
      · rw [spell_large hn, large_large hn, disjointPlaces_place h.place]
        exact Nat.add_le_add_left hrest 1

/-!
## Other lists with the same text
-/

theorem exists_fewer_large {ns : List Nat} (h : Hex ns) (hlarge : 0 < large ns) :
    exists ms, Hex ms ∧ spell ms = spell ns ∧ large ms + 1 = large ns := by
  induction ns with
  | nil => cases hlarge
  | cons n ns ih =>
      by_cases hn : n < 10
      · rw [large_small hn] at hlarge ⊢
        rcases ih h.tail hlarge with ⟨ms, hhex, hspell, hcount⟩
        refine ⟨n :: ms, hhex.cons (h n List.mem_cons_self), ?_, ?_⟩
        · rw [spell_small hn, spell_small hn, hspell]
        · rw [large_small hn]
          exact hcount
      · have hplace := h.place
        have hdigit : n - 10 < 10 := by
          lia
        refine ⟨1 :: (n - 10) :: ns, ?_, ?_, ?_⟩
        · exact (h.tail.cons (by lia)).cons (by lia)
        · rw [spell_small (by lia), spell_small hdigit, spell_large hn]
        · rw [large_small (by lia), large_small hdigit, large_large hn,
            Nat.add_comm]

theorem exists_large {text : List Nat} (h : Decimal text) {k : Nat}
    (hk : k <= disjointPlaces text) :
    exists ms, Hex ms ∧ spell ms = text ∧ large ms = k := by
  fun_induction disjointPlaces text generalizing k with
  | case1 =>
      rw [Nat.le_zero.mp hk]
      exact ⟨[], h.hex, rfl, rfl⟩
  | case2 a =>
      rw [Nat.le_zero.mp hk]
      exact ⟨[a], h.hex, h.spell_eq, h.large_eq⟩
  | case3 a b rest hplace ih =>
      cases k with
      | zero => exact ⟨_, h.hex, h.spell_eq, h.large_eq⟩
      | succ k =>
          rcases ih h.tail.tail (k := k) (by lia) with
            ⟨ms, hhex, hspell, hcount⟩
          have hten : ¬ 10 + b < 10 := by
            lia
          refine ⟨(10 + b) :: ms, hhex.cons (by lia), ?_, ?_⟩
          · rw [spell_large hten, hspell, Nat.add_sub_cancel_left, hplace.left]
          · rw [large_large hten, hcount, Nat.add_comm]
  | case4 a b rest _ ih =>
      have ha := h a List.mem_cons_self
      rcases ih h.tail hk with ⟨ms, hhex, hspell, hcount⟩
      refine ⟨a :: ms, hhex.cons (by lia), ?_, ?_⟩
      · rw [spell_small ha, hspell]
      · rw [large_small ha, hcount]

theorem exists_one_large {text : List Nat} (h : Decimal text)
    (hplaces : 0 < places text) :
    exists ms, Hex ms ∧ spell ms = text ∧ large ms = 1 := by
  fun_induction places text with
  | case1 => cases hplaces
  | case2 a => cases hplaces
  | case3 a b rest ih =>
      have ha := h a List.mem_cons_self
      by_cases hplace : Place a b
      · have hten : ¬ 10 + b < 10 := by
          lia
        have hrest := h.tail.tail
        refine ⟨(10 + b) :: rest, hrest.hex.cons (by lia), ?_, ?_⟩
        · rw [spell_large hten, hrest.spell_eq, Nat.add_sub_cancel_left,
            hplace.left]
        · rw [large_large hten, hrest.large_eq]
      · rw [if_neg hplace, Nat.zero_add] at hplaces
        rcases ih h.tail hplaces with ⟨ms, hhex, hspell, hcount⟩
        refine ⟨a :: ms, hhex.cons (by lia), ?_, ?_⟩
        · rw [spell_small ha, hspell]
        · rw [large_small ha, hcount]

theorem exists_two_one_large {text : List Nat} (h : Decimal text)
    (hplaces : 1 < places text) :
    exists ms ms', ms ≠ ms' ∧
      (Hex ms ∧ spell ms = text ∧ large ms = 1) ∧
      (Hex ms' ∧ spell ms' = text ∧ large ms' = 1) := by
  fun_induction places text with
  | case1 => cases hplaces
  | case2 a => cases hplaces
  | case3 a b rest ih =>
      have ha := h a List.mem_cons_self
      by_cases hplace : Place a b
      · rw [if_pos hplace] at hplaces
        rcases exists_one_large h.tail (by lia) with
          ⟨ms, hhex, hspell, hcount⟩
        have hten : ¬ 10 + b < 10 := by
          lia
        have hrest := h.tail.tail
        refine ⟨(10 + b) :: rest, a :: ms, ?_, ⟨hrest.hex.cons (by lia), ?_, ?_⟩,
          ⟨hhex.cons (by lia), ?_, ?_⟩⟩
        · intro heq
          have hhead := (List.cons.inj heq).left
          lia
        · rw [spell_large hten, hrest.spell_eq, Nat.add_sub_cancel_left,
            hplace.left]
        · rw [large_large hten, hrest.large_eq]
        · rw [spell_small ha, hspell]
        · rw [large_small ha, hcount]
      · rw [if_neg hplace, Nat.zero_add] at hplaces
        rcases ih h.tail hplaces with
          ⟨ms, ms', hne, ⟨hhex, hspell, hcount⟩, ⟨hhex', hspell', hcount'⟩⟩
        refine ⟨a :: ms, a :: ms', ?_, ⟨hhex.cons (by lia), ?_, ?_⟩,
          ⟨hhex'.cons (by lia), ?_, ?_⟩⟩
        · intro heq
          exact hne (List.cons.inj heq).right
        · rw [spell_small ha, hspell]
        · rw [large_small ha, hcount]
        · rw [spell_small ha, hspell']
        · rw [large_small ha, hcount']

/-!
## Texts of one list
-/

def Full (ns : List Nat) : Prop :=
  large ns = places (spell ns)

theorem Full.tail {n : Nat} {ns : List Nat} (hhex : Hex (n :: ns))
    (h : Full (n :: ns)) : Full ns := by
  have hle := large_le_places hhex.tail
  unfold Full at h ⊢
  by_cases hn : n < 10
  · rw [spell_small hn, large_small hn] at h
    have hmore := places_le_cons n (spell ns)
    lia
  · rw [spell_large hn, large_large hn, places_place hhex.place] at h
    have hmore := places_le_cons (n - 10) (spell ns)
    lia

theorem not_full_of_split {n m : Nat} {ns ms : List Nat} (hhex : Hex (n :: ns))
    (hhex' : Hex (m :: ms)) (hn : n < 10) (hm : ¬ m < 10)
    (hspell : spell (n :: ns) = spell (m :: ms)) : ¬ Full (n :: ns) := by
  intro hfull
  have hle := large_le_places hhex.tail
  unfold Full at hfull
  rw [large_small hn, hspell, spell_large hm, places_place hhex'.place]
    at hfull
  rw [spell_small hn, spell_large hm] at hspell
  rw [← (List.cons.inj hspell).right] at hfull
  lia

theorem eq_of_full {ns ms : List Nat} (hhex : Hex ns) (hhex' : Hex ms)
    (hspell : spell ns = spell ms) (hfull : Full ns) (hfull' : Full ms) :
    ns = ms := by
  induction ns generalizing ms with
  | nil =>
      have hlength := length_spell ms
      rw [← hspell] at hlength
      exact (List.eq_nil_of_length_eq_zero (by
        simp only [spell_nil, List.length_nil] at hlength
        lia)).symm
  | cons n ns ih =>
      cases ms with
      | nil =>
          have hlength := length_spell (n :: ns)
          rw [hspell] at hlength
          simp only [spell_nil, List.length_nil, List.length_cons] at hlength
          lia
      | cons m ms =>
          by_cases hn : n < 10
          · by_cases hm : m < 10
            · rw [spell_small hn, spell_small hm] at hspell
              rcases List.cons.inj hspell with ⟨hhead, htail⟩
              rw [hhead, ih hhex.tail hhex'.tail htail (hfull.tail hhex)
                (hfull'.tail hhex')]
            · exact absurd hfull (not_full_of_split hhex hhex' hn hm hspell)
          · by_cases hm : m < 10
            · exact absurd hfull'
                (not_full_of_split hhex' hhex hm hn hspell.symm)
            · rw [spell_large hn, spell_large hm] at hspell
              rcases List.cons.inj (List.cons.inj hspell).right with
                ⟨hhead, htail⟩
              have heq : n = m := by
                lia
              rw [heq, ih hhex.tail hhex'.tail htail (hfull.tail hhex)
                (hfull'.tail hhex')]

/-- The text of the list is the text of no other list with at least `least`
numbers and the same parity. -/
def Unambiguous (least : Nat) (ns : List Nat) : Prop :=
  large ns = 0 ∧ (ns.length < least + 2 ∨ disjointPlaces (spell ns) < 2) ∨
    large ns = 1 ∧ places (spell ns) = 1

instance (least : Nat) (ns : List Nat) : Decidable (Unambiguous least ns) :=
  inferInstanceAs (Decidable (_ ∨ _))

theorem eq_of_unambiguous {least : Nat} {ns ms : List Nat} (hhex : Hex ns)
    (h : Unambiguous least ns) (hhex' : Hex ms)
    (hparity : ms.length % 2 = ns.length % 2) (hleast : least <= ms.length)
    (hspell : spell ms = spell ns) : ms = ns := by
  have hlength := length_spell ns
  have hlength' := length_spell ms
  rw [hspell] at hlength'
  rcases h with ⟨hnone, hfew⟩ | ⟨hone, hplaces⟩
  · have hdisjoint := large_le_disjointPlaces hhex'
    rw [hspell] at hdisjoint
    -- An even number of places is read as one number, and two are too many.
    have hnone' : large ms = 0 := by
      lia
    rw [(decimal_of_large hnone).spell_eq,
      (decimal_of_large hnone').spell_eq] at hspell
    exact hspell
  · have hle := large_le_places hhex'
    rw [hspell, hplaces] at hle
    have hone' : large ms = 1 := by
      lia
    apply eq_of_full hhex' hhex hspell
    · rw [Full, hspell, hone', hplaces]
    · rw [Full, hone, hplaces]

theorem exists_other_of_not_unambiguous {least : Nat} {ns : List Nat}
    (hhex : Hex ns) (hleast : least <= ns.length)
    (h : ¬ Unambiguous least ns) :
    exists ms, Hex ms ∧ ms.length % 2 = ns.length % 2 ∧
      least <= ms.length ∧ spell ms = spell ns ∧ ms ≠ ns := by
  have hlength := length_spell ns
  have htext := spell_decimal hhex
  have hother : forall {ms}, large ms ≠ large ns -> ms ≠ ns := by
    intro ms hcount heq
    rw [heq] at hcount
    exact hcount rfl
  have hlength' : forall {ms}, spell ms = spell ns ->
      ms.length + large ms = ns.length + large ns := by
    intro ms hspell
    rw [← length_spell, hspell, hlength]
  rcases Nat.lt_or_ge 1 (large ns) with hmany | hfew
  · -- Two numbers of two digits are read as four numbers.
    rcases exists_fewer_large hhex (by lia) with ⟨ms, hms, hspell, hcount⟩
    rcases exists_fewer_large hms (by lia) with ⟨ms', hms', hspell', hcount'⟩
    have hsame := hspell'.trans hspell
    have hlen := hlength' hsame
    exact ⟨ms', hms', by lia, by lia, hsame, hother (by lia)⟩
  · rcases Nat.eq_zero_or_pos (large ns) with hnone | hpos
    · -- Two disjoint places are read as one number each.
      have htwo : 2 <= disjointPlaces (spell ns) ∧ least + 2 <= ns.length := by
        unfold Unambiguous at h
        lia
      rcases exists_large htext htwo.left with ⟨ms, hms, hspell, hcount⟩
      have hlen := hlength' hspell
      exact ⟨ms, hms, by lia, by lia, hspell, hother (by lia)⟩
    · -- Another place is read as one number.
      have hplaces : 1 < places (spell ns) := by
        have hle := large_le_places hhex
        unfold Unambiguous at h
        lia
      rcases exists_two_one_large htext hplaces with
        ⟨ms, ms', hne, ⟨hms, hspell, hcount⟩, ⟨hms', hspell', hcount'⟩⟩
      have hlen := hlength' hspell
      have hlen' := hlength' hspell'
      by_cases heq : ms = ns
      · refine ⟨ms', hms', by lia, by lia, hspell', ?_⟩
        rw [← heq]
        exact Ne.symm hne
      · exact ⟨ms, hms, by lia, by lia, hspell, heq⟩

theorem unambiguous_iff {least : Nat} {ns : List Nat} (hhex : Hex ns)
    (hleast : least <= ns.length) :
    (forall ms, Hex ms -> ms.length % 2 = ns.length % 2 ->
      least <= ms.length -> spell ms = spell ns -> ms = ns) <->
      Unambiguous least ns := by
  constructor
  · intro h
    by_cases hun : Unambiguous least ns
    · exact hun
    · rcases exists_other_of_not_unambiguous hhex hleast hun with
        ⟨ms, hms, hparity, hlong, hspell, hne⟩
      exact absurd (h ms hms hparity hlong hspell) hne
  · intro h ms hms hparity hlong hspell
    exact eq_of_unambiguous hhex h hms hparity hlong hspell

end DigitTexts
end Foundation
end QCore
