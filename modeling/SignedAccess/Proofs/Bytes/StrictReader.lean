import Mathlib.Data.List.TakeWhile
import Mathlib.Logic.Basic
import SignedAccess.Proofs.Bytes.Base64

/-!
# Base64 read character by character

A strict reader goes through a text from left to right.  It knows the digits so far, how many of
them begin a group, how many padding characters the group has, and whether padding has begun.  What
it reads is what is said of a text as a whole: digits and then padding that fits to their number.

    scan? t = decodePadded? t                                        (scan?_eq_decodePadded?)
    (∃ bytes, scan? t = some bytes) ↔ IsStrict t                     (exists_scan?_iff)
    sixteen bytes are read ↔ t has 22 digits and then "=="           (isDigestText_iff)
-/

namespace SignedAccess.Base64

/-! ## The reader -/

/-- The bytes of a text behind `digits`, the latest first, of which `position` begin a group that
has `pads` padding characters; `isPadded` says whether there has been any padding.  Padding before a
second digit of a group is passed over, and nothing follows the padding that completes a group. -/
def scanFrom? (digits : List Nat) (position pads : Nat) (isPadded : Bool) : Text → Option Bytes
  | [] => if position = 0 then some (bytesOf digits.reverse) else none
  | c :: rest =>
    if c = '=' then
      if position < 2 then scanFrom? digits position pads true rest
      else if 4 ≤ position + pads + 1 then
        if rest = [] then some (bytesOf digits.reverse) else none
      else scanFrom? digits position (pads + 1) true rest
    else match value? .standard c with
      | some n =>
        if isPadded then none else scanFrom? (n :: digits) ((position + 1) % 4) 0 false rest
      | none => none

/-- The bytes of a text, which may not begin with padding. -/
def scan? (t : Text) : Option Bytes :=
  if t.head? = some '=' then none else scanFrom? [] 0 0 false t

/-! ## Texts that are read -/

/-- Whether a character is a digit in the standard alphabet. -/
def IsSymbol (c : Char) : Prop := c.isAlphanum = true ∨ c = '+' ∨ c = '/'

instance (c : Char) : Decidable (IsSymbol c) :=
  inferInstanceAs (Decidable (c.isAlphanum = true ∨ c = '+' ∨ c = '/'))

/-- Whether so many padding characters may stand behind so many digits.  Behind complete groups
there may be any number of them, unless there is no group. -/
def PadsFit (digits pads : Nat) : Prop :=
  (digits % 4 = 0 ∧ (digits = 0 → pads = 0)) ∨ (digits % 4 = 2 ∧ pads = 2) ∨
    (digits % 4 = 3 ∧ pads = 1)

/-- Whether a text consists of digits and of padding that fits to them. -/
def IsStrict (t : Text) : Prop :=
  ∃ digits pads, t = digits ++ List.replicate pads '=' ∧ (∀ c ∈ digits, IsSymbol c) ∧
    PadsFit digits.length pads

/-- Whether a text consists of 22 digits and two padding characters. -/
def IsDigestText (t : Text) : Prop :=
  ∃ digits : Text, digits.length = 22 ∧ (∀ c ∈ digits, IsSymbol c) ∧ t = digits ++ "==".toList

/-! ## Padding -/

/-- Whether padding may end a text behind digits of which `position` begin a group. -/
def Closes (position : Nat) (padding : Text) : Prop :=
  match position with
  | 0 => ∀ c ∈ padding, c = '='
  | 2 => padding = ['=', '=']
  | 3 => padding = ['=']
  | _ => False

instance (position : Nat) (padding : Text) : Decidable (Closes position padding) :=
  match position with
  | 0 => List.decidableBAll (· = '=') padding
  | 2 => inferInstanceAs (Decidable (padding = ['=', '=']))
  | 3 => inferInstanceAs (Decidable (padding = ['=']))
  | 1 | _ + 4 => instDecidableFalse

variable {done : List Nat} {position pads : Nat} {front rest : Text}

/-- Behind padding there is no other character. -/
theorem scanFrom?_padded_of_ne {c : Char} (hc : c ≠ '=') :
    scanFrom? done position pads true (c :: rest) = none := by
  rw [scanFrom?, if_neg hc]
  cases value? .standard c <;> rfl

/-- Padding that completes nothing goes on to the end. -/
theorem scanFrom?_padded_start (hposition : position < 2) :
    scanFrom? done position pads true rest =
      if Closes position rest then some (bytesOf done.reverse) else none := by
  induction rest with
  | nil =>
    rw [scanFrom?]
    obtain rfl | rfl : position = 0 ∨ position = 1 := by omega
    · simp [Closes]
    · simp [Closes]
  | cons c rest ih =>
    by_cases hc : c = '='
    · rw [scanFrom?, if_pos hc, if_pos hposition, ih]
      obtain rfl | rfl : position = 0 ∨ position = 1 := by omega
      · simp [Closes, hc]
      · simp [Closes]
    · rw [scanFrom?_padded_of_ne hc, if_neg]
      obtain rfl | rfl : position = 0 ∨ position = 1 := by omega
      · exact fun h => hc (h c List.mem_cons_self)
      · exact id

/-- Padding completes the group that has been begun. -/
theorem scanFrom?_padding (hposition : position < 4) (hrest : ∀ c ∈ rest.head?, c = '=') :
    scanFrom? done position 0 false rest =
      if Closes position rest then some (bytesOf done.reverse) else none := by
  cases rest with
  | nil =>
    rw [scanFrom?]
    obtain rfl | rfl | rfl | rfl : position = 0 ∨ position = 1 ∨ position = 2 ∨ position = 3 := by
      omega
    all_goals simp [Closes]
  | cons c rest =>
    obtain rfl := hrest c rfl
    rw [scanFrom?, if_pos rfl]
    by_cases hearly : position < 2
    · rw [if_pos hearly, scanFrom?_padded_start hearly]
      obtain rfl | rfl : position = 0 ∨ position = 1 := by omega
      · simp [Closes]
      · simp [Closes]
    · rw [if_neg hearly]
      obtain rfl | rfl : position = 2 ∨ position = 3 := by omega
      · rw [if_neg (by decide)]
        cases rest with
        | nil => simp [scanFrom?, Closes]
        | cons c rest =>
          by_cases hc : c = '='
          · simp [scanFrom?, Closes, hc]
          · rw [scanFrom?_padded_of_ne hc]
            simp [Closes, hc]
      · simp [Closes]

/-! ## Digits -/

/-- Digits are read one by one. -/
theorem scanFrom?_append (hposition : position < 4) (hfront : '=' ∉ front) :
    scanFrom? done position 0 false (front ++ rest) =
      (front.mapM (value? .standard)).bind fun digits =>
        scanFrom? (digits.reverse ++ done) ((position + digits.length) % 4) 0 false rest := by
  induction front generalizing done position with
  | nil =>
    show _ = scanFrom? done (position % 4) 0 false rest
    rw [Nat.mod_eq_of_lt hposition, List.nil_append]
  | cons c front ih =>
    rw [List.mem_cons, not_or] at hfront
    rw [List.cons_append, scanFrom?, if_neg fun h => hfront.1 h.symm, List.mapM_cons]
    cases hc : value? .standard c with
    | none => rfl
    | some n =>
      show scanFrom? (n :: done) ((position + 1) % 4) 0 false (front ++ rest) = _
      rw [ih (Nat.mod_lt _ (by decide)) hfront.2]
      cases front.mapM (value? .standard) with
      | none => rfl
      | some digits =>
        show scanFrom? (digits.reverse ++ n :: done)
            (((position + 1) % 4 + digits.length) % 4) _ _ _ =
          scanFrom? ((n :: digits).reverse ++ done) ((position + (digits.length + 1)) % 4) _ _ _
        rw [List.reverse_cons, List.append_assoc, List.singleton_append]
        congr 1
        omega

theorem length_of_mapM {α β : Type} {f : α → Option β} {xs : List α} {ys : List β}
    (h : xs.mapM f = some ys) : ys.length = xs.length := by
  induction xs generalizing ys with
  | nil =>
    cases h
    rfl
  | cons x xs ih =>
    rw [List.mapM_cons, Option.bind_eq_bind, Option.bind_eq_some_iff] at h
    obtain ⟨y, -, h⟩ := h
    rw [Option.bind_eq_bind, Option.bind_eq_some_iff] at h
    obtain ⟨ys', hys, heq⟩ := h
    cases heq
    rw [List.length_cons, ih hys, List.length_cons]

/-! ## Reading as a whole -/

theorem padsFit_eq_true_iff {n : Nat} : padsFit n pads = true ↔ PadsFit n pads := by
  unfold padsFit PadsFit
  obtain h | h | h | h : n % 4 = 0 ∨ n % 4 = 1 ∨ n % 4 = 2 ∨ n % 4 = 3 := by omega
  · simp [h, or_iff_not_imp_right]
  · simp [h]
  · simp [h]
  · simp [h]

/-- What may end a text behind digits, some of which there are if there is padding. -/
theorem closes_iff {n : Nat} {padding : Text} (hn : n = 0 → padding = []) :
    Closes (n % 4) padding ↔ (∀ c ∈ padding, c = '=') ∧ PadsFit n padding.length := by
  have hnone : n = 0 → padding.length = 0 := fun h => by rw [hn h]; rfl
  obtain h | h | h | h : n % 4 = 0 ∨ n % 4 = 1 ∨ n % 4 = 2 ∨ n % 4 = 3 := by omega
  · simp only [Closes, PadsFit, h]
    exact ⟨fun hall => ⟨hall, Or.inl ⟨trivial, hnone⟩⟩, fun h => h.1⟩
  · simp [Closes, PadsFit, h]
  · simp only [Closes, PadsFit, h]
    constructor
    · rintro rfl
      exact ⟨by simp, by simp⟩
    · rintro ⟨hall, hfit⟩
      rw [List.eq_replicate_of_mem hall, show padding.length = 2 by omega]
      rfl
  · simp only [Closes, PadsFit, h]
    constructor
    · rintro rfl
      exact ⟨by simp, by simp⟩
    · rintro ⟨hall, hfit⟩
      rw [List.eq_replicate_of_mem hall, show padding.length = 1 by omega]
      rfl

/-- The text up to its first padding character, and what follows. -/
theorem exists_front_padding (t : Text) : ∃ front padding, t = front ++ padding ∧ '=' ∉ front ∧
    (∀ c ∈ padding.head?, c = '=') ∧
      t.takeWhile (· ≠ '=') = front ∧ t.dropWhile (· ≠ '=') = padding := by
  refine ⟨t.takeWhile (· ≠ '='), t.dropWhile (· ≠ '='), List.takeWhile_append_dropWhile.symm,
    ?_, ?_, rfl, rfl⟩
  · intro h
    have hne := List.mem_takeWhile_imp h
    simp at hne
  · intro c hc
    have hnot := List.head?_dropWhile_not (· ≠ '=') t
    rw [Option.mem_def.1 hc] at hnot
    simpa using hnot

/-- The reader reads what is said of the text as a whole. -/
theorem scan?_eq_decodePadded? (t : Text) : scan? t = decodePadded? t := by
  obtain ⟨front, padding, ht, hfront, hpadding, htake, hdrop⟩ := exists_front_padding t
  unfold scan? decodePadded?
  extract_lets pads
  rw [show pads = padding from hdrop, htake, ht]
  cases front with
  | nil =>
    cases padding with
    | nil => rfl
    | cons c rest =>
      obtain rfl := hpadding c rfl
      have hfit : padsFit 0 ('=' :: rest).length = false := rfl
      rw [List.nil_append, List.head?_cons, if_pos rfl]
      show none = if (_ && padsFit 0 ('=' :: rest).length) = true then _ else none
      rw [hfit, Bool.and_false, if_neg Bool.false_ne_true]
  | cons c front =>
    have hne : c ≠ '=' := fun h => hfront (h ▸ List.mem_cons_self)
    rw [List.cons_append, List.head?_cons, if_neg fun h => hne (Option.some.inj h),
      ← List.cons_append, scanFrom?_append (by decide) hfront, Option.bind_eq_bind]
    refine Option.bind_congr fun digits hdigits => ?_
    have hlength : digits.length = front.length + 1 := length_of_mapM hdigits
    rw [List.append_nil, Nat.zero_add, scanFrom?_padding (Nat.mod_lt _ (by decide)) hpadding,
      List.reverse_reverse]
    refine if_congr ?_ rfl rfl
    rw [closes_iff (by omega), Bool.and_eq_true, padsFit_eq_true_iff, List.all_eq_true]
    simp only [decide_eq_true_eq]

/-! ## Which texts are read -/

theorem isSymbol_iff (c : Char) : IsSymbol c ↔ ∃ n, value? .standard c = some n := by
  have hupper : c.isUpper = true ↔ 'A' ≤ c ∧ c ≤ 'Z' := decide_eq_true_iff
  have hlower : c.isLower = true ↔ 'a' ≤ c ∧ c ≤ 'z' := by
    show (decide ('a' ≤ c) && decide (c ≤ 'z')) = true ↔ _
    simp
  have hdigit : c.isDigit = true ↔ '0' ≤ c ∧ c ≤ '9' := by
    simp [Char.isDigit, Char.le_def]
  unfold IsSymbol Char.isAlphanum Char.isAlpha value?
  rw [Bool.or_eq_true, Bool.or_eq_true, hupper, hlower, hdigit]
  split
  · next h => simp [h]
  · next hu =>
    split
    · next h => simp [h]
    · next hl =>
      split
      · next h => simp [h]
      · next hd =>
        simp only [hu, hl, hd, false_or]
        by_cases hplus : c = '+' <;> by_cases hslash : c = '/' <;> simp [hplus, hslash]

theorem equals_not_isSymbol : ¬IsSymbol '=' := by decide

theorem exists_mapM_value?_iff {digits : Text} :
    (∃ ns, digits.mapM (value? .standard) = some ns) ↔ ∀ c ∈ digits, IsSymbol c := by
  constructor
  · rintro ⟨ns, hns⟩ c hc
    exact (isSymbol_iff c).2 (mem_of_mapM_eq_some hns hc)
  · intro h
    induction digits with
    | nil => exact ⟨[], rfl⟩
    | cons c digits ih =>
      obtain ⟨n, hn⟩ := (isSymbol_iff c).1 (h c List.mem_cons_self)
      obtain ⟨ns, hns⟩ := ih fun x hx => h x (List.mem_cons_of_mem _ hx)
      exact ⟨n :: ns, by rw [List.mapM_cons, hn, hns]; rfl⟩

/-- What is read is digits and padding that fits. -/
theorem decodePadded?_eq_some_iff {t : Text} {bytes : Bytes} :
    decodePadded? t = some bytes ↔ ∃ digits pads ns, t = digits ++ List.replicate pads '=' ∧
      digits.mapM (value? .standard) = some ns ∧ PadsFit digits.length pads ∧
        bytes = bytesOf ns := by
  constructor
  · intro h
    obtain ⟨front, padding, ht, -, -, htake, hdrop⟩ := exists_front_padding t
    unfold decodePadded? at h
    extract_lets pads at h
    rw [show pads = padding from hdrop, htake, Option.bind_eq_bind, Option.bind_eq_some_iff] at h
    obtain ⟨ns, hns, h⟩ := h
    split at h
    · next hpads =>
      rw [Bool.and_eq_true, List.all_eq_true, padsFit_eq_true_iff, length_of_mapM hns] at hpads
      have hall : ∀ c ∈ padding, c = '=' := fun c hc => of_decide_eq_true (hpads.1 c hc)
      refine ⟨front, padding.length, ns, ?_, hns, hpads.2, (Option.some.inj h).symm⟩
      rw [← List.eq_replicate_of_mem hall, ht]
    · cases h
  · rintro ⟨digits, pads, ns, rfl, hns, hfit, rfl⟩
    have hsymbol := exists_mapM_value?_iff.1 ⟨ns, hns⟩
    have hne : ∀ c ∈ digits, decide (c ≠ '=') = true := by
      intro c hc
      refine decide_eq_true fun heq => equals_not_isSymbol ?_
      rw [← heq]
      exact hsymbol c hc
    have htake : (List.replicate pads '=').takeWhile (· ≠ '=') = [] := by
      cases pads <;> simp [List.replicate_succ]
    have hdrop : (List.replicate pads '=').dropWhile (· ≠ '=') = List.replicate pads '=' := by
      cases pads <;> simp [List.replicate_succ]
    unfold decodePadded?
    extract_lets padding
    have hpads : padding = List.replicate pads '=' :=
      (List.dropWhile_append_of_pos hne).trans hdrop
    rw [hpads, List.takeWhile_append_of_pos hne, htake, List.append_nil, hns, Option.bind_eq_bind,
      Option.bind_some, if_pos]
    rw [Bool.and_eq_true, List.all_eq_true, padsFit_eq_true_iff, length_of_mapM hns,
      List.length_replicate]
    exact ⟨fun c hc => decide_eq_true (List.eq_of_mem_replicate hc), hfit⟩

/-- The reader reads just the texts of digits and padding that fits. -/
theorem exists_scan?_iff {t : Text} : (∃ bytes, scan? t = some bytes) ↔ IsStrict t := by
  rw [scan?_eq_decodePadded?]
  constructor
  · rintro ⟨bytes, h⟩
    obtain ⟨digits, pads, ns, ht, hns, hfit, -⟩ := decodePadded?_eq_some_iff.1 h
    exact ⟨digits, pads, ht, exists_mapM_value?_iff.1 ⟨ns, hns⟩, hfit⟩
  · rintro ⟨digits, pads, ht, hsymbol, hfit⟩
    obtain ⟨ns, hns⟩ := exists_mapM_value?_iff.2 hsymbol
    exact ⟨_, decodePadded?_eq_some_iff.2 ⟨digits, pads, ns, ht, hns, hfit, rfl⟩⟩

/-! ## How much is read -/

/-- Four digits make three bytes, two make one and three make two. -/
theorem length_bytesOf (ns : List Nat) :
    (bytesOf ns).length = ns.length / 4 * 3 + (ns.length % 4 - 1) := by
  fun_induction bytesOf ns with
  | case1 a b c d rest ih =>
    simp only [List.length_cons, ih]
    omega
  | case2 a b c => simp
  | case3 a b => simp
  | case4 ns h1 h2 h3 =>
    match ns, h1, h2, h3 with
    | [], _, _, _ => rfl
    | [a], _, _, _ => simp
    | [a, b], _, _, h3 => exact absurd rfl (h3 a b)
    | [a, b, c], _, h2, _ => exact absurd rfl (h2 a b c)
    | a :: b :: c :: d :: rest, h1, _, _ => exact absurd rfl (h1 a b c d rest)

/-- A text is read as sixteen bytes just when it has 22 digits and two padding characters. -/
theorem isDigestText_iff {t : Text} :
    IsDigestText t ↔ ∃ digest, decodePadded? t = some digest ∧ digest.length = 16 := by
  constructor
  · rintro ⟨digits, hlength, hsymbol, ht⟩
    obtain ⟨ns, hns⟩ := exists_mapM_value?_iff.2 hsymbol
    have hfit : PadsFit digits.length 2 := by rw [hlength]; exact Or.inr (Or.inl ⟨rfl, rfl⟩)
    refine ⟨bytesOf ns, decodePadded?_eq_some_iff.2 ⟨digits, 2, ns, ht, hns, hfit, rfl⟩, ?_⟩
    rw [length_bytesOf, length_of_mapM hns, hlength]
  · rintro ⟨digest, hdigest, hlength⟩
    obtain ⟨digits, pads, ns, ht, hns, hfit, rfl⟩ := decodePadded?_eq_some_iff.1 hdigest
    rw [length_bytesOf, length_of_mapM hns] at hlength
    obtain ⟨hcount, rfl⟩ : digits.length = 22 ∧ pads = 2 := by
      rcases hfit with ⟨hmod, -⟩ | ⟨hmod, hpads⟩ | ⟨hmod, hpads⟩ <;> omega
    exact ⟨digits, hcount, exists_mapM_value?_iff.1 ⟨ns, hns⟩, ht⟩

end SignedAccess.Base64
