import SpringSkeleton.Json.Written
import Mathlib.Data.List.Basic

namespace SpringSkeleton.Json

-- Control characters are those before the blank; line feed and carriage return are among them.
def Printed (cs : List Char) : Prop := ∀ c ∈ cs, 32 ≤ c.toNat

instance (cs : List Char) : Decidable (Printed cs) := List.decidableBAll _ cs

namespace Printed
variable {first second : List Char}

theorem append (left : Printed first) (right : Printed second) : Printed (first ++ second) := by
  intro c member
  rcases List.mem_append.mp member with member | member
  · exact left c member
  · exact right c member

theorem cons {c : Char} (visible : 32 ≤ c.toNat) (rest : Printed first) : Printed (c :: first) :=
  List.forall_mem_cons.mpr ⟨visible, rest⟩

theorem subset (whole : Printed second) (part : first ⊆ second) : Printed first :=
  fun c member => whole c (part member)

theorem excludes {c : Char} (whole : Printed first) (control : c.toNat < 32) : c ∉ first :=
  fun member => Nat.not_le_of_lt control (whole c member)

end Printed

theorem visible_digitChar : ∀ n < 16, 32 ≤ (Nat.digitChar n).toNat := by decide

theorem printed_escapedChar (c : Char) : Printed (escapedChar c) := by
  unfold escapedChar
  split
  · decide
  · decide
  · decide
  · decide
  · decide
  · decide
  · decide
  · split
    · refine .append (by decide : Printed ['\\', 'u', '0', '0']) ?_
      exact .cons (visible_digitChar _ (by omega)) (.cons (visible_digitChar _ (by omega)) (by decide))
    · rename_i visible
      exact .cons (Nat.le_of_not_lt visible) (by decide)

theorem printed_writtenText (s : String) : Printed (writtenText s) := by
  refine .append (.cons (by decide) ?_) (by decide)
  intro c member
  obtain ⟨original, _, inside⟩ := List.mem_flatMap.mp member
  exact printed_escapedChar original c inside

theorem printed_digitChars (n : Nat) : Printed (digitChars n) := by
  intro c member
  have digit := Nat.isDigit_of_mem_toDigits (by decide) (by decide) member
  have bounds : '0'.toNat ≤ c.toNat := by
    simp only [Char.isDigit, Bool.and_eq_true, decide_eq_true_eq] at digit
    exact digit.1
  exact Nat.le_trans (by decide) bounds

theorem printed_writtenInt (value : Int) : Printed (writtenInt value) := by
  unfold writtenInt
  split
  · exact .cons (by decide) (printed_digitChars _)
  · exact printed_digitChars _

theorem printed_zeros (count : Nat) : Printed (List.replicate count '0') := by
  intro c member
  rw [List.eq_of_mem_replicate member]
  decide

theorem printed_layout (s : Decimal.Scientific) : Printed (layout s) := by
  have digits := printed_digitChars s.digits
  unfold layout
  simp only
  split
  · exact (digits.append (printed_zeros _)).append (by decide)
  · split
    · exact (digits.subset (List.take_subset _ _)).append
        (.cons (by decide) (digits.subset (List.drop_subset _ _)))
    · split
      · exact ((by decide : Printed ['0', '.']).append (printed_zeros _)).append digits
      · have exponent : ∀ n, Printed ('e' :: (if n < (0 : Int) then '-' else '+') ::
            digitChars n.natAbs) := by
          intro n
          refine .cons (by decide) (.cons ?_ (printed_digitChars _))
          split <;> decide
        refine .append ?_ (exponent _)
        split
        · decide
        · rename_i chars
          exact chars ▸ digits
        · rename_i digit rest chars
          rw [chars] at digits
          obtain ⟨first, others⟩ := List.forall_mem_cons.mp digits
          exact .cons first (.cons (by decide) others)

theorem printed_writtenNumber (value : Number) : Printed (writtenNumber value) := by
  cases value with
  | whole value => exact printed_writtenInt value
  | real value =>
    change Printed (writtenFloat value)
    unfold writtenFloat
    split
    · decide
    · refine .append ?_ (printed_layout _)
      split <;> decide

theorem printed_commaSeparated {parts : List (List Char)} (each : ∀ part ∈ parts, Printed part) :
    Printed (commaSeparated parts) := by
  induction parts with
  | nil => exact fun _ none => nomatch none
  | cons part rest ih =>
    obtain ⟨first, others⟩ := List.forall_mem_cons.mp each
    cases rest with
    | nil => exact first
    | cons next more => exact first.append (.cons (by decide) (ih others))

theorem printed_writtenMembers {members : List (String × List Char)}
    (each : ∀ member ∈ members, Printed member.2) : Printed (writtenMembers members) := by
  refine .append (.cons (by decide) (printed_commaSeparated ?_)) (by decide)
  intro part member
  obtain ⟨entry, inside, rfl⟩ := List.mem_map.mp member
  exact (printed_writtenText entry.1).append (.cons (by decide) (each entry inside))

-- By the structure of the value, together with its items and its members.
mutual
theorem printed_writtenChars (value : Value) : Printed (writtenChars value) := by
  cases value with
  | null => decide
  | boolean value => cases value <;> decide
  | number value => exact printed_writtenNumber value
  | text value => exact printed_writtenText value
  | array items =>
    exact .append (.cons (by decide) (printed_commaSeparated (printed_writtenItems items))) (by decide)
  | object members =>
    exact .append (.cons (by decide) (printed_commaSeparated (printed_writtenPairs members)))
      (by decide)

theorem printed_writtenItems (items : List Value) : ∀ part ∈ writtenItems items, Printed part := by
  cases items with
  | nil => exact List.forall_mem_nil _
  | cons item rest =>
    exact List.forall_mem_cons.mpr ⟨printed_writtenChars item, printed_writtenItems rest⟩

theorem printed_writtenPairs (members : List (String × Value)) :
    ∀ part ∈ writtenPairs members, Printed part := by
  cases members with
  | nil => exact List.forall_mem_nil _
  | cons member rest =>
    refine List.forall_mem_cons.mpr ⟨?_, printed_writtenPairs rest⟩
    exact (printed_writtenText member.1).append
      (.cons (by decide) (printed_writtenChars member.2))
end

end SpringSkeleton.Json
