import EdaGym.Lib.Lines
import Mathlib.Algebra.Order.Group.Nat
import Mathlib.Tactic.Lemma

/-!
# Frames and chunks

A frame is a content after its length in eight bytes, the most significant first. Frames one after
the other can be told apart. A chunk is what one read of bounded size gives of a content.
-/

namespace EdaGym

/-! ### Frames -/

/-- `n.to_bytes(width, byteorder="big")`, of the low bytes of `n`. -/
def bigEndian : Nat → Nat → Bytes
  | 0, _ => []
  | width + 1, n => bigEndian width (n / 256) ++ [UInt8.ofNat n]

@[simp] lemma length_bigEndian (width n : Nat) : (bigEndian width n).length = width := by
  induction width generalizing n with
  | zero => rfl
  | succ width ih => rw [bigEndian, List.length_append, ih, List.length_singleton]

lemma bigEndian_inj {width n n' : Nat} (hn : n < 256 ^ width) (hn' : n' < 256 ^ width)
    (h : bigEndian width n = bigEndian width n') : n = n' := by
  induction width generalizing n n' with
  | zero =>
    rw [Nat.pow_zero] at hn hn'
    omega
  | succ width ih =>
    obtain ⟨hhigh, hlow⟩ := List.append_inj' h rfl
    have hmod : n % 256 = n' % 256 := by
      have hbyte := congrArg UInt8.toNat (List.singleton_inj.mp hlow)
      simpa using hbyte
    have hdiv := ih (Nat.div_lt_of_lt_mul (by rwa [Nat.pow_succ, Nat.mul_comm] at hn))
      (Nat.div_lt_of_lt_mul (by rwa [Nat.pow_succ, Nat.mul_comm] at hn')) hhigh
    rw [← Nat.div_add_mod n 256, ← Nat.div_add_mod n' 256, hdiv, hmod]

lemma bigEndians_inj {width : Nat} {ns ns' : List Nat} (hwidth : 0 < width)
    (hns : ∀ n ∈ ns, n < 256 ^ width) (hns' : ∀ n ∈ ns', n < 256 ^ width)
    (h : ns.flatMap (bigEndian width) = ns'.flatMap (bigEndian width)) : ns = ns' := by
  have hne : ∀ (n : Nat) (r : Bytes), bigEndian width n ++ r ≠ [] := by
    intro n r hnil
    have hlength := congrArg List.length hnil
    rw [List.length_append, length_bigEndian, List.length_nil] at hlength
    omega
  induction ns generalizing ns' with
  | nil =>
    cases ns' with
    | nil => rfl
    | cons n' ns' => exact absurd h.symm (hne n' _)
  | cons n ns ih =>
    cases ns' with
    | nil => exact absurd h (hne n _)
    | cons n' ns' =>
      rw [List.forall_mem_cons] at hns hns'
      obtain ⟨hfirst, hrest⟩ := List.append_inj h (by simp)
      rw [bigEndian_inj hns.1 hns'.1 hfirst, ih hns.2 hns'.2 hrest]

/-- A length that fits in eight bytes. -/
def Frameable (content : Bytes) : Prop := content.length < 256 ^ 8

instance (content : Bytes) : Decidable (Frameable content) := inferInstanceAs (Decidable (_ < _))

def frame (content : Bytes) : Bytes := bigEndian 8 content.length ++ content

lemma frame_append_inj {x y r r' : Bytes} (hx : Frameable x) (hy : Frameable y)
    (h : frame x ++ r = frame y ++ r') : x = y ∧ r = r' := by
  simp only [frame, List.append_assoc] at h
  obtain ⟨hlength, hrest⟩ := List.append_inj h (by simp)
  exact List.append_inj hrest (bigEndian_inj hx hy hlength)

lemma frames_inj {xs ys : List Bytes} (hxs : ∀ x ∈ xs, Frameable x) (hys : ∀ y ∈ ys, Frameable y)
    (h : xs.flatMap frame = ys.flatMap frame) : xs = ys := by
  have hne : ∀ (x : Bytes) (r : Bytes), frame x ++ r ≠ [] := by
    intro x r hnil
    have hlength := congrArg List.length hnil
    simp [frame] at hlength
  induction xs generalizing ys with
  | nil =>
    cases ys with
    | nil => rfl
    | cons y ys => exact absurd h.symm (hne y _)
  | cons x xs ih =>
    cases ys with
    | nil => exact absurd h (hne x _)
    | cons y ys =>
      rw [List.forall_mem_cons] at hxs hys
      obtain ⟨rfl, hrest⟩ := frame_append_inj hxs.1 hys.1 h
      rw [ih hxs.2 hys.2 hrest]

/-! ### Chunks -/

/-- `cur` is the chunk that is being filled. -/
def chunksFrom {α : Type*} (size : Nat) : List α → List α → List (List α)
  | cur, [] => if cur.isEmpty then [] else [cur]
  | cur, b :: bs =>
    if cur.length + 1 = size then (cur ++ [b]) :: chunksFrom size [] bs
    else chunksFrom size (cur ++ [b]) bs

/-- Chunks of a size, the last one possibly shorter. -/
def chunksOf {α : Type*} (size : Nat) (content : List α) : List (List α) :=
  chunksFrom size [] content

lemma flatten_chunksFrom {α : Type*} (size : Nat) (cur bs : List α) :
    (chunksFrom size cur bs).flatten = cur ++ bs := by
  induction bs generalizing cur with
  | nil =>
    rw [chunksFrom]
    cases cur <;> simp
  | cons b bs ih =>
    rw [chunksFrom]
    split_ifs <;> simp [ih]

@[simp] lemma flatten_chunksOf {α : Type*} (size : Nat) (content : List α) :
    (chunksOf size content).flatten = content := flatten_chunksFrom size [] content

end EdaGym
