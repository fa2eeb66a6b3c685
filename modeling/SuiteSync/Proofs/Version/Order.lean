import SuiteSync.Version.Basic

set_option autoImplicit false

namespace SuiteSync.Version

open Std

theorem digits_value_unique (digits digits' : List Char) (start start' : Nat) (lengths : digits.length = digits'.length)
    (all : ∀ c ∈ digits, c.isDigit = true) (all' : ∀ c ∈ digits', c.isDigit = true)
    (same : digits.foldl (fun value c => value * 10 + (c.toNat - '0'.toNat)) start =
      digits'.foldl (fun value c => value * 10 + (c.toNat - '0'.toNat)) start') : start = start' ∧ digits = digits' := by
  induction digits generalizing digits' start start' with
  | nil =>
      rw [List.eq_nil_of_length_eq_zero lengths.symm] at same ⊢
      exact ⟨same, rfl⟩
  | cons c rest ih =>
      cases digits' with
      | nil => cases lengths
      | cons d rest' =>
          rw [List.forall_mem_cons] at all all'
          obtain ⟨front, back⟩ := ih rest' _ _ (Nat.succ.inj lengths) all.2 all'.2 same
          have range : ∀ e : Char, e.isDigit = true → 48 ≤ e.toNat ∧ e.toNat ≤ 57 := by
            intro e digit
            simpa [Char.isDigit, UInt32.le_iff_toNat_le] using digit
          have first := range c all.1
          have second := range d all'.1
          have zero : '0'.toNat = 48 := rfl
          simp only [zero] at front
          have chars : c = d := Char.toNat_inj.mp (by omega)
          refine ⟨by omega, ?_⟩
          rw [chars, back]

theorem value_unique (a b : String) (numeric : isNumeric a = true) (numeric' : isNumeric b = true)
    (values : value a = value b) (lengths : a.length = b.length) : a = b := by
  rw [← String.length_toList, ← String.length_toList] at lengths
  exact String.toList_inj.mp (digits_value_unique a.toList b.toList 0 0 lengths (List.all_eq_true.mp numeric)
    (List.all_eq_true.mp numeric') values).2

def number (identifier : String) : Nat := if isNumeric identifier then value identifier else 0

def digits (identifier : String) : Nat := if isNumeric identifier then identifier.length else 0

def letters (identifier : String) : String := if isNumeric identifier then "" else identifier

def compareRanks : String → String → Ordering :=
  compareLex (compareOn fun identifier => !isNumeric identifier)
    (compareLex (compareOn number) (compareLex (compareOn digits) (compareOn letters)))

instance : TransCmp compareRanks := inferInstanceAs (TransCmp (compareLex _ _))

theorem compare_identifiers_ranks : compareIdentifiers = compareRanks := by
  funext a b
  cases numeric : isNumeric a <;> cases numeric' : isNumeric b <;>
    simp only [compareIdentifiers, compareRanks, compareLex, compareOn, number, digits, letters, numeric, numeric']
  · rfl
  · rfl
  · rfl
  · simp

instance : TransCmp compareIdentifiers := compare_identifiers_ranks ▸ inferInstance

instance : LawfulEqCmp compareIdentifiers where
  eq_of_compare {a b} same := by
    cases numeric : isNumeric a <;> cases numeric' : isNumeric b <;>
      simp only [compareIdentifiers, numeric, numeric', reduceCtorEq] at same
    · exact LawfulEqOrd.eq_of_compare same
    · rw [Ordering.then_eq_eq] at same
      exact value_unique a b numeric numeric' (LawfulEqOrd.eq_of_compare same.1) (LawfulEqOrd.eq_of_compare same.2)

theorem compare_lists_lex (order : String → String → Ordering) : compareLists order = List.compareLex order := by
  funext as bs
  induction as generalizing bs with
  | nil => cases bs <;> rfl
  | cons a as ih =>
      cases bs with
      | nil => rfl
      | cons b bs => rw [compareLists, ih, List.compareLex_cons_cons]

instance : TransCmp (compareLists compareIdentifiers) := compare_lists_lex _ ▸ inferInstance

instance : LawfulEqCmp (compareLists compareIdentifiers) := compare_lists_lex _ ▸ inferInstance

theorem compare_pre_lex : comparePre = compareLex (compareOn List.isEmpty) (compareLists compareIdentifiers) := by
  funext as bs
  cases as <;> cases bs <;> rfl

instance : TransCmp comparePre := compare_pre_lex ▸ inferInstance

instance : LawfulEqCmp comparePre where
  eq_of_compare {as bs} same := by
    rw [compare_pre_lex, compareLex, Ordering.then_eq_eq] at same
    exact LawfulEqCmp.eq_of_compare same.2

theorem trans_on {α β : Type} (order : β → β → Ordering) (part : α → β) (trans : TransCmp order) :
    TransCmp fun a b => order (part a) (part b) where
  eq_swap := trans.eq_swap
  isLE_trans := trans.isLE_trans

instance : TransOrd Version :=
  have := trans_on comparePre Version.pre inferInstance
  have := trans_on (compareLists compareIdentifiers) Version.build inferInstance
  inferInstanceAs (TransCmp (compareLex (compareOn Version.major) (compareLex (compareOn Version.minor)
    (compareLex (compareOn Version.patch) (compareLex (fun a b => comparePre a.pre b.pre)
      (fun a b => compareLists compareIdentifiers a.build b.build))))))

instance : LawfulEqOrd Version where
  eq_of_compare {a b} same := by
    have same : order a b = .eq := same
    simp only [order, Ordering.then_eq_eq] at same
    obtain ⟨major, minor, patch, pre, build⟩ := same
    cases a
    cases b
    cases LawfulEqOrd.eq_of_compare major
    cases LawfulEqOrd.eq_of_compare minor
    cases LawfulEqOrd.eq_of_compare patch
    cases LawfulEqCmp.eq_of_compare pre
    cases LawfulEqCmp.eq_of_compare build
    rfl

end SuiteSync.Version
