import SignedAccess.Key.KeyFile
import SignedAccess.Proofs.Key.Ber

/-!
# Layouts of RSA keys

An RSA key is written as a sequence of its numbers, under a label of its own or as a string in a
wrapper that names the algorithm.  Either is read as the key, and under its label as nothing else:
the sequence of numbers is no wrapper, as no algorithm stands in it.

    rsaKey ((bareElement key).encode ++ rest) = some (key, rest)              (rsaKey_encode)
    elementOutcome? c.label (c.element key).encode = some (rsaOutcome key)  (elementOutcome?_encode)
-/

namespace SignedAccess

open Der (Element)

namespace Layout

/-! ## Elements -/

/-- The numbers of a key with two primes, behind the version of the layout. -/
def numbers (key : PrivateKey) : List Nat :=
  [0, key.n, key.e, key.d, key.p, key.q, key.dp, key.dq, key.qInv]

def bareElement (key : PrivateKey) : Element := Der.sequence ((numbers key).map Der.natural)

/-- The algorithm of a key, with no parameters. -/
def algorithmElement : Element :=
  let rsa := ObjectId.encode [1, 2, 840, 113549, 1, 1, 1]
  Der.sequence [⟨Der.objectIdTag, rsa⟩, ⟨Der.nullTag, []⟩]

def wrappedElement (key : PrivateKey) : Element :=
  Der.sequence
    [Der.natural 0, algorithmElement, ⟨Der.octetStringTag, (bareElement key).encode⟩]

variable {key : PrivateKey} {rest : Bytes}

theorem fits_sequence {es : List Element} (h : (Der.sequence es).content.length < 256 ^ 8) :
    (Der.sequence es).Fits := ⟨by show Der.sequenceTag.toNat % 32 ≠ 31; decide, h⟩

theorem fits_natural {n : Nat} {es : List Element} (h : (Der.sequence es).content.length < 256 ^ 8)
    (hn : Der.natural n ∈ es) : (Der.natural n).Fits :=
  ⟨by show Der.integerTag.toNat % 32 ≠ 31; decide, (Der.length_content_lt_of_mem hn).trans h⟩

/-! ## Numbers -/

theorem primitive_zero : Ber.primitive 2 ((Der.natural 0).encode ++ rest) = some ([0], rest) := by
  have hfits : (Der.natural 0).Fits := ⟨by decide, by decide⟩
  have htag : (Der.natural 0).tag.toNat = 2 := rfl
  exact Ber.primitive_encode hfits htag (by decide)

theorem shortInteger_zero :
    Ber.shortInteger ((Der.natural 0).encode ++ rest) = some ([0], rest) := by
  unfold Ber.shortInteger
  rw [Ber.bind_of_some primitive_zero, Ber.bind_of_some (Ber.guard_of_pos (by decide))]
  rfl

theorem integer_zero : Ber.integer ((Der.natural 0).encode ++ rest) = some ([0], rest) := by
  unfold Ber.integer
  rw [Ber.bind_of_some primitive_zero, Ber.bind_of_some (Ber.guard_of_pos (by decide))]
  rfl

/-- A key is read from its numbers. -/
theorem rsaKey_encode (hfurther : key.further = [])
    (hlength : (bareElement key).content.length < 256 ^ 8) :
    rsaKey ((bareElement key).encode ++ rest) = some (key, rest) := by
  have hread (n : Nat) (hn : n ∈ numbers key) (rest : Bytes) :
      Ber.natural ((Der.natural n).encode ++ rest) = some (n, rest) :=
    Ber.natural_encode (fits_natural hlength (List.mem_map_of_mem hn))
  simp only [numbers, List.forall_mem_cons] at hread
  obtain ⟨-, hn, he, hd, hp, hq, hdp, hdq, hqInv, -⟩ := hread
  refine Ber.inSequence_encode (fits_sequence hlength) ?_
  simp only [numbers, List.map_cons, List.map_nil, List.flatMap_cons, List.flatMap_nil]
  rw [Ber.bind_of_some shortInteger_zero, Ber.bind_of_some (hn _), Ber.bind_of_some (he _),
    Ber.bind_of_some (hd _), Ber.bind_of_some (hp _), Ber.bind_of_some (hq _),
    Ber.bind_of_some (hdp _), Ber.bind_of_some (hdq _), Ber.bind_of_some (hqInv _)]
  -- nothing follows the last number, so that there are no further primes
  rw [Ber.bind_of_some (rfl : Ber.optionally (Ber.universal 16) _ [] = some (none, [])),
    Ber.bind_of_some (Ber.guard_of_pos (by decide)), Option.getD_none, ← hfurther]
  rfl

/-- A sequence of numbers is no wrapper: a number stands in the place of the algorithm. -/
theorem wrappedKey_bareElement (hlength : (bareElement key).content.length < 256 ^ 8) :
    wrappedKey (bareElement key).encode = none := by
  have hn : (Der.natural key.n).Fits :=
    fits_natural hlength (List.mem_map_of_mem (by simp [numbers]))
  have htag : (Ber.headerOf (Der.natural key.n)).tag ≠ Ber.universal 16 := by
    show (⟨Der.integerTag.toNat / 64, Der.integerTag.toNat % 32⟩ : Ber.Tag) ≠ ⟨0, 16⟩
    decide
  rw [← List.append_nil (bareElement key).encode]
  refine Ber.inSequence_encode_of_none (fits_sequence hlength) ?_
  simp only [numbers, List.map_cons, List.flatMap_cons]
  rw [Ber.bind_of_some integer_zero, Ber.bind_of_none]
  exact Ber.inSequence_encode_of_ne hn htag

/-! ## Wrappers -/

/-- The algorithm is read with its parameters as they are encoded. -/
theorem algorithm_encode : algorithm (algorithmElement.encode ++ rest) =
    some (⟨ObjectId.encode [1, 2, 840, 113549, 1, 1, 1], some [0x05, 0x00]⟩, rest) := by
  refine Ber.inSequence_encode (fits_sequence (by decide)) ?_
  rfl

/-- A wrapped key is read from its wrapper. -/
theorem wrappedKey_wrappedElement (hlength : (wrappedElement key).content.length < 256 ^ 8) :
    wrappedKey (wrappedElement key).encode =
      some (⟨⟨ObjectId.encode [1, 2, 840, 113549, 1, 1, 1], some [0x05, 0x00]⟩,
        (bareElement key).encode⟩, []) := by
  have hfits : (⟨Der.octetStringTag, (bareElement key).encode⟩ : Element).Fits :=
    ⟨by show Der.octetStringTag.toNat % 32 ≠ 31; decide,
      (Der.length_content_lt_of_mem (by simp)).trans hlength⟩
  have htag : Der.octetStringTag.toNat = 4 := rfl
  rw [← List.append_nil (wrappedElement key).encode]
  refine Ber.inSequence_encode (fits_sequence hlength) ?_
  simp only [List.flatMap_cons, List.flatMap_nil]
  rw [Ber.bind_of_some integer_zero, Ber.bind_of_some algorithm_encode,
    Ber.bind_of_some (Ber.string_encode hfits htag (by decide))]
  rw [Ber.bind_of_some (rfl : Ber.optionally (Ber.context 0) _ [] = some (none, []))]
  rfl

end Layout

namespace KeyFile

open Layout Ber

/-! ## Containers -/

/-- How a key stands in a block: by its numbers, or in a wrapper. -/
inductive Container where
  | bare
  | wrapped
  deriving DecidableEq, Repr

namespace Container

def label : Container → Text
  | bare => "RSA PRIVATE KEY".toList
  | wrapped => "PRIVATE KEY".toList

def element (key : PrivateKey) : Container → Element
  | bare => bareElement key
  | wrapped => wrappedElement key

def labelBytes (c : Container) : Bytes := Utf8.encode c.label

end Container

variable {key : PrivateKey}

theorem length_bareElement_lt (hlength : (wrappedElement key).content.length < 256 ^ 5) :
    (bareElement key).content.length < 256 ^ 5 := by
  have hlt : (bareElement key).encode.length < (wrappedElement key).content.length :=
    Der.length_content_lt_of_mem (e := ⟨Der.octetStringTag, (bareElement key).encode⟩)
      (List.mem_cons_of_mem _ (List.mem_cons_of_mem _ List.mem_cons_self))
  exact ((bareElement key).length_content_lt.trans hlt).trans hlength

theorem first?_rsaKey (hfurther : key.further = [])
    (hlength : (bareElement key).content.length < 256 ^ 8) :
    first? rsaKey (bareElement key).encode = some key := by
  have hread : rsaKey ((bareElement key).encode ++ []) = some (key, []) :=
    rsaKey_encode hfurther hlength
  rw [List.append_nil] at hread
  unfold first?
  rw [hread]
  rfl

/-- Under its label an element of a key is read as the key. -/
theorem elementOutcome?_encode (c : Container) (hfurther : key.further = [])
    (hlength : (c.element key).content.length < 256 ^ 5) :
    elementOutcome? c.labelBytes (c.element key).encode = some (rsaOutcome key) := by
  have hwide : (256 : Nat) ^ 5 < 256 ^ 8 := by decide
  cases c with
  | bare =>
    have hkind : kindOf? Container.bare.labelBytes = some .rsa := by decide +kernel
    have hwrapped : wrappedOutcome? families (some .rsa) (Kind.accepts .rsa)
        (bareElement key).encode = none := by
      unfold wrappedOutcome? first?
      rw [wrappedKey_bareElement (hlength.trans hwide)]
      rfl
    unfold elementOutcome?
    rw [if_neg (by decide +kernel), if_neg (by decide +kernel), hkind]
    show (wrappedOutcome? families (some .rsa) (Kind.accepts .rsa) (bareElement key).encode).or
      ((first? rsaKey (bareElement key).encode).map rsaOutcome) = _
    rw [hwrapped, first?_rsaKey hfurther (hlength.trans hwide)]
    rfl
  | wrapped =>
    have hfamily : familyOf? families (ObjectId.encode [1, 2, 840, 113549, 1, 1, 1]) =
        some .rsa := by decide +kernel
    have hbare := (length_bareElement_lt hlength).trans hwide
    unfold elementOutcome?
    rw [if_pos (by decide +kernel)]
    show wrappedOutcome? families none (fun _ => true) (wrappedElement key).encode = _
    unfold wrappedOutcome? first?
    rw [wrappedKey_wrappedElement (hlength.trans hwide)]
    simp only [Option.map_some, Option.bind_eq_bind, Option.bind_some, hfamily]
    show (first? rsaKey (bareElement key).encode).map rsaOutcome = _
    rw [first?_rsaKey hfurther hbare]
    rfl

end KeyFile

end SignedAccess
