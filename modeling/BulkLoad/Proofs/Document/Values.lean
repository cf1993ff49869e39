import BulkLoad.Proofs.Traversal
import BulkLoad.Schema.Document

/-!
What the readers of texts, numbers, words, lists and optional values make of a written value.
-/

namespace BulkLoad

namespace Reader

variable {α β : Type} {r : Reader Json.Token α}

@[simp] theorem text_tree (s : String) : text (Json.text s).tree = .ok s := rfl

@[simp] theorem flag_tree (b : Bool) : flag (Json.bool b).tree = .ok b := rfl

@[simp] theorem double_tree (x : Double) : double (Json.double x).tree = .ok x := rfl

@[simp] theorem value_tree (j : Json) : Json.reader j.tree = .ok j := by
  rw [Json.reader, Json.ofTree?_tree]

/-! ### Integers -/

theorem integer_tree {low high n : Int} (hlow : low ≤ n) (hhigh : n ≤ high) :
    integer low high (Json.int n).tree = .ok n := by
  have hsome : (Scalar.integer? (Json.Token.int n)).filter (fun n => low ≤ n && n ≤ high) =
      some n := by
    rw [Scalar.integer?]
    simp [Json.instScalarToken, hlow, hhigh]
  rw [integer, Json.tree, scalar, hsome]

theorem natural_tree {width n : Nat} (h : n < 2 ^ width) :
    natural width (Json.int n).tree = .ok n := by
  have hpow : (2 : Int) ^ width = ((2 ^ width : Nat) : Int) := by simp
  have hn : (n : Int) ≤ 2 ^ width - 1 := by
    rw [hpow]
    omega
  rw [natural, integer_tree (Int.natCast_nonneg n) hn]
  rfl

@[simp] theorem word16_tree (n : UInt16) : word16 (Json.int n.toNat).tree = .ok n := by
  rw [word16, natural_tree n.toNat_lt]
  exact congrArg Except.ok UInt16.ofNat_toNat

@[simp] theorem word32_tree (n : UInt32) : word32 (Json.int n.toNat).tree = .ok n := by
  rw [word32, natural_tree n.toNat_lt]
  exact congrArg Except.ok UInt32.ofNat_toNat

@[simp] theorem word64_tree (n : UInt64) : word64 (Json.int n.toNat).tree = .ok n := by
  rw [word64, natural_tree n.toNat_lt]
  exact congrArg Except.ok UInt64.ofNat_toNat

@[simp] theorem int32_tree (n : Int32) : int32 (Json.int n.toInt).tree = .ok n := by
  have hhigh : n.toInt ≤ 2 ^ 31 - 1 := by
    have := n.toInt_lt
    omega
  rw [int32, integer_tree n.le_toInt hhigh]
  exact congrArg Except.ok (Int32.ofInt_toInt n)

/-! ### Lists and optional values -/

theorem list_tree (items : List Json) :
    list r (Json.list items).tree = items.mapM fun j => r j.tree := by
  have htrees : ∀ items : List Json, (Json.trees items).mapM r = items.mapM fun j => r j.tree := by
    intro items
    induction items with
    | nil => rfl
    | cons j rest ih => rw [Json.trees, List.mapM_cons, List.mapM_cons, ih]
  rw [Json.tree, list, htrees]
  cases items.mapM fun j => r j.tree <;> rfl

theorem list_map_tree {write : α → Json} {as : List α} (h : ∀ a ∈ as, r (write a).tree = .ok a) :
    list r (Json.list (as.map write)).tree = .ok as := by
  rw [list_tree, mapM_eq_ok_iff, List.forall₂_map_left_iff, List.forall₂_same]
  exact h

@[simp] theorem optional_null : optional r Json.null.tree = .ok none := rfl

@[simp] theorem optional_tree {j : Json} (h : j ≠ .null) :
    optional r j.tree = (r j.tree).map some := by
  cases j with
  | null => exact absurd rfl h
  | _ => rfl

theorem optional_of_read {j : Json} {a : α} (h : j ≠ .null) (hread : r j.tree = .ok a) :
    optional r j.tree = .ok (some a) := by
  rw [optional_tree h, hread]
  rfl

/-- An optional value that is written as null where it is absent. -/
theorem optional_getD {write : α → Json} {r : Reader Json.Token β} {restore : α → β} (x : Option α)
    (h : ∀ a, write a ≠ .null ∧ r (write a).tree = .ok (restore a)) :
    optional r ((x.map write).getD .null).tree = .ok (x.map restore) := by
  cases x with
  | none => rfl
  | some a => exact optional_of_read (h a).1 (h a).2

@[simp] theorem optional_ofText? (x : Option String) :
    optional text (Json.ofText? x).tree = .ok x := by
  cases x <;> rfl

end Reader
end BulkLoad
