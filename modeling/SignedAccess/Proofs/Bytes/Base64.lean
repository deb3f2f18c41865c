import SignedAccess.Bytes.Base64
import SignedAccess.Text.Blank

/-!
# Base64 read back

Bytes are read back from their digits, which are letters, digits and the two marks of the alphabet.
A text that is read has no other characters than these and padding.

    decodeUnpadded? a (encodeUnpadded a bytes) = some bytes  (decodeUnpadded?_encodeUnpadded)
    decodePadded? t = some bytes → no character of t is a blank  (isBlank_of_decodePadded?)
-/

namespace SignedAccess.Base64

theorem value?_digit_of_lt (a : Alphabet) {n : Nat} (h : n < 64) :
    value? a (digit a n) = some n := by
  cases a with
  | standard => exact (value?_digit n h).1
  | urlSafe => exact (value?_digit n h).2

theorem mapM_value?_digit (a : Alphabet) {digits : List Nat} (h : ∀ n ∈ digits, n < 64) :
    (digits.map (digit a)).mapM (value? a) = some digits := by
  induction digits with
  | nil => rfl
  | cons n digits ih =>
    rw [List.map_cons, List.mapM_cons, value?_digit_of_lt a (h n List.mem_cons_self),
      ih fun m hm => h m (List.mem_cons_of_mem _ hm)]
    rfl

/-- No digit is left over alone. -/
theorem length_sextets_mod (bytes : Bytes) : (sextets bytes).length % 4 ≠ 1 := by
  fun_induction sextets bytes with
  | case1 a b c rest ih =>
    simp only [List.length_cons]
    omega
  | case2 a b => exact show 3 % 4 ≠ 1 by decide
  | case3 a => exact show 2 % 4 ≠ 1 by decide
  | case4 => decide

/-- Bytes are read back from their digits. -/
theorem decodeUnpadded?_encodeUnpadded (a : Alphabet) (bytes : Bytes) :
    decodeUnpadded? a (encodeUnpadded a bytes) = some bytes := by
  unfold decodeUnpadded? encodeUnpadded
  rw [mapM_value?_digit a (sextets_lt bytes), Option.bind_eq_bind, Option.bind_some,
    if_neg (length_sextets_mod bytes), bytesOf_sextets]

theorem digit_ne_dot : ∀ n, n < 64 → digit .standard n ≠ '.' ∧ digit .urlSafe n ≠ '.' := by
  decide +kernel

/-- A dot is no digit. -/
theorem dot_not_mem_encodeUnpadded (a : Alphabet) (bytes : Bytes) :
    '.' ∉ encodeUnpadded a bytes := by
  intro h
  obtain ⟨n, hn, hdot⟩ := List.mem_map.1 h
  have hne := digit_ne_dot n (sextets_lt bytes n hn)
  cases a with
  | standard => exact hne.1 hdot
  | urlSafe => exact hne.2 hdot

theorem encodeUnpadded_ne_nil (a : Alphabet) {bytes : Bytes} (h : bytes ≠ []) :
    encodeUnpadded a bytes ≠ [] := by
  intro hnil
  have hdecoded := decodeUnpadded?_encodeUnpadded a bytes
  rw [hnil] at hdecoded
  exact h (Option.some.inj hdecoded).symm

/-- Whether a character may stand in a URL as it is: a letter or a digit of ASCII, or one of the two
marks. -/
def IsUrlSafe (c : Char) : Prop := c.isAlphanum = true ∨ c = '-' ∨ c = '_'

instance (c : Char) : Decidable (IsUrlSafe c) :=
  inferInstanceAs (Decidable (c.isAlphanum = true ∨ c = '-' ∨ c = '_'))

theorem isUrlSafe_digit : ∀ n, n < 64 → IsUrlSafe (digit .urlSafe n) := by
  decide +kernel

theorem isUrlSafe_of_mem_encodeUnpadded {bytes : Bytes} {c : Char}
    (h : c ∈ encodeUnpadded .urlSafe bytes) : IsUrlSafe c := by
  obtain ⟨n, hn, rfl⟩ := List.mem_map.1 h
  exact isUrlSafe_digit n (sextets_lt bytes n hn)

/-! ## Texts that are read -/

theorem mem_of_mapM_eq_some {α β : Type} {f : α → Option β} {xs : List α} {ys : List β} {x : α}
    (h : xs.mapM f = some ys) (hx : x ∈ xs) : ∃ y, f x = some y := by
  induction xs generalizing ys with
  | nil => cases hx
  | cons z xs ih =>
    rw [List.mapM_cons, Option.bind_eq_bind, Option.bind_eq_some_iff] at h
    obtain ⟨y, hy, h⟩ := h
    rw [Option.bind_eq_bind, Option.bind_eq_some_iff] at h
    obtain ⟨ys', hys, -⟩ := h
    rcases List.mem_cons.1 hx with rfl | hx
    · exact ⟨y, hy⟩
    · exact ih hys hx

/-- A text in base64 has no other characters than digits and padding. -/
theorem mem_of_decodePadded? {t : Text} {digest : Bytes} {c : Char}
    (h : decodePadded? t = some digest) (hc : c ∈ t) :
    c = '=' ∨ ∃ n, value? .standard c = some n := by
  unfold decodePadded? at h
  extract_lets pads at h
  rw [Option.bind_eq_bind, Option.bind_eq_some_iff] at h
  obtain ⟨digits, hdigits, h⟩ := h
  rw [← List.takeWhile_append_dropWhile (p := (· ≠ '=')) (l := t), List.mem_append] at hc
  rcases hc with hc | hc
  · exact Or.inr (mem_of_mapM_eq_some hdigits hc)
  · split at h
    · next hpads =>
      rw [Bool.and_eq_true, List.all_eq_true] at hpads
      exact Or.inl (of_decide_eq_true (hpads.1 c hc))
    · cases h

theorem value?_of_isBlank : ∀ n, n < 0x80 → Text.isBlank (Char.ofNat n) = true →
    value? .standard (Char.ofNat n) = none := by
  decide +kernel

/-- No digit lies beyond ASCII. -/
theorem value?_beyond {c : Char} (hc : 0x80 ≤ c.toNat) : value? .standard c = none := by
  have hbeyond {d : Char} (hd : d.toNat < 0x80) : ¬c ≤ d := by
    intro hle
    have hnat : c.toNat ≤ d.toNat := UInt32.le_iff_toNat_le.1 (Char.le_def.1 hle)
    omega
  have hne {d : Char} (hd : d.toNat < 0x80) : c ≠ d := fun heq => hbeyond hd (heq ▸ Char.le_refl c)
  unfold value?
  rw [if_neg fun h => hbeyond (by decide) h.2, if_neg fun h => hbeyond (by decide) h.2,
    if_neg fun h => hbeyond (by decide) h.2]
  show (if c = '+' then some 62 else if c = '/' then some 63 else none) = none
  rw [if_neg (hne (by decide)), if_neg (hne (by decide))]

/-- A text in base64 has no blanks. -/
theorem isBlank_of_decodePadded? {t : Text} {digest : Bytes} (h : decodePadded? t = some digest) :
    ∀ c ∈ t, Text.isBlank c = false := by
  intro c hc
  refine Bool.eq_false_iff.2 fun hblank => ?_
  rcases mem_of_decodePadded? h hc with rfl | ⟨n, hn⟩
  · exact absurd hblank (by decide)
  · by_cases hascii : c.toNat < 0x80
    · have hnone := value?_of_isBlank c.toNat hascii (by rwa [Char.ofNat_toNat])
      rw [Char.ofNat_toNat, hn] at hnone
      cases hnone
    · rw [value?_beyond (by omega)] at hn
      cases hn

end SignedAccess.Base64
