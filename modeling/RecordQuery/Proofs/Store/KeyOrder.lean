import Mathlib.Data.Subtype
import RecordQuery.Store.Key

/-!
The order of keys. For every type of keys it is a total order whose ties are equal keys, so keys
of any of these types index the entries of a store.
-/

namespace RecordQuery.KeyType

variable {α β : Type} [Ord β]

/-- A comparison by numbers or other images is total if that of the images is. -/
theorem transCmp_on [Std.TransOrd β] (f : α → β) :
    Std.TransCmp fun a b : α => compare (f a) (f b) where
  eq_swap := Std.OrientedCmp.eq_swap
  isLE_trans := Std.TransCmp.isLE_trans

/-- Where no two values share an image, the values that tie are equal. -/
theorem lawfulEqCmp_on [Std.LawfulEqOrd β] {f : α → β} (injective : Function.Injective f) :
    Std.LawfulEqCmp fun a b : α => compare (f a) (f b) where
  compare_self := Std.ReflCmp.compare_self
  eq_of_compare tie := injective (Std.LawfulEqCmp.eq_of_compare tie)

theorem byte_toNat_injective : Function.Injective UInt8.toNat :=
  fun _ _ => UInt8.toNat_inj.mp

theorem bool_toNat_injective : Function.Injective Bool.toNat := by
  intro a b same
  cases a <;> cases b <;> first | rfl | cases same

theorem order_option (t : KeyType) : (option t).order = (compare : Option t.Carrier → _ → _) := by
  funext a b
  cases a <;> cases b <;> rfl

theorem transCmp (t : KeyType) : Std.TransCmp t.order := by
  induction t with
  | int t => exact transCmp_on Subtype.val
  | bool => exact transCmp_on Bool.toNat
  | string => exact inferInstanceAs (Std.TransOrd String)
  | bytes =>
    have := transCmp_on UInt8.toNat
    show Std.TransCmp (List.compareLex fun x y : UInt8 => compare x.toNat y.toNat)
    infer_instance
  | option t ih =>
    have : Std.TransOrd t.Carrier := ih
    rw [order_option]
    infer_instance

theorem lawfulEqCmp (t : KeyType) : Std.LawfulEqCmp t.order := by
  induction t with
  | int t => exact lawfulEqCmp_on Subtype.coe_injective
  | bool => exact lawfulEqCmp_on bool_toNat_injective
  | string => exact inferInstanceAs (Std.LawfulEqOrd String)
  | bytes =>
    have := lawfulEqCmp_on byte_toNat_injective
    show Std.LawfulEqCmp (List.compareLex fun x y : UInt8 => compare x.toNat y.toNat)
    infer_instance
  | option t ih =>
    have : Std.LawfulEqOrd t.Carrier := ih
    rw [order_option]
    infer_instance

instance (t : KeyType) : Std.TransOrd t.Carrier := transCmp t

instance (t : KeyType) : Std.LawfulEqOrd t.Carrier := lawfulEqCmp t

end RecordQuery.KeyType
