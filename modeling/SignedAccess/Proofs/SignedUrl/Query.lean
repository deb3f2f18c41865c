import SignedAccess.Proofs.SignedUrl.NameTable
import SignedAccess.Proofs.Text.Escapes
import SignedAccess.Proofs.Text.Pieces
import SignedAccess.SignedUrl.Encoding

/-!
# Queries and paths read back

A query is read by cutting it at every `&`, each piece at its first `=`, and decoding both halves.
Reading gives back the pairs that were written, by name, and so the values of every name.

    readQuery? (encodePairs ps) = some ps                            (readQuery?_encodePairs)
    encodePath p = encodePath q → p = q                              (encodePath_injective)
-/

namespace SignedAccess.SignedUrl

open NameTable (valuesNamed)

/-! ## Algorithm -/

/-- The named value of a piece `name=value`. -/
def readPair? (piece : Text) : Option (Text × Text) := do
  let (name, value) ← Text.cut? '=' piece
  return (← Percent.decode? name, ← Percent.decode? value)

/-- The named values of a query, in the order in which they stand. -/
def readQuery? (query : Text) : Option (List (Text × Text)) :=
  if query = [] then some [] else (query.splitOn '&').mapM readPair?

/-! ## Parts -/

/-- A mark that is neither unreserved nor a percent sign does not stand in an encoded part. -/
theorem not_mem_encodePart {c : Char} (h : Percent.isUnreserved c = false) (hpercent : c ≠ '%')
    (t : Text) : c ∉ encodePart t := by
  refine Percent.not_mem_encode h hpercent ?_ t
  simp only [Percent.isUnreserved, Bool.or_eq_false_iff] at h
  exact h.1.1.1.1

/-- A mark that is neither unreserved nor a slash nor a percent sign does not stand in an encoded
path. -/
theorem not_mem_encodePath {c : Char} (h : isPathChar c = false) (hpercent : c ≠ '%')
    (t : Text) : c ∉ encodePath t := by
  refine Percent.not_mem_encode h hpercent ?_ t
  simp only [isPathChar, Percent.isUnreserved, Bool.or_eq_false_iff] at h
  exact h.1.1.1.1.1

/-- A text of unreserved characters is its own encoded form. -/
theorem encodePart_of_unreserved {t : Text} (h : ∀ c ∈ t, Percent.isUnreserved c = true) :
    encodePart t = t :=
  Percent.encode_of_kept h

theorem isUnreserved_digitChar : ∀ n, n < 16 → Percent.isUnreserved (Nat.digitChar n) = true := by
  decide

theorem isUnreserved_of_mem_hex {bytes : Bytes} {c : Char} (h : c ∈ Hex.encode bytes) :
    Percent.isUnreserved c = true := by
  obtain ⟨b, -, hc⟩ := List.mem_flatMap.1 h
  have hlt : b.toNat < 256 := b.toNat_lt
  simp only [Hex.encodeByte, List.mem_cons, List.not_mem_nil, or_false] at hc
  rcases hc with rfl | rfl
  · exact isUnreserved_digitChar _ (by omega)
  · exact isUnreserved_digitChar _ (by omega)

theorem encodePath_injective {p q : Text} (h : encodePath p = encodePath q) : p = q :=
  Percent.encode_injective rfl h

/-! ## Pairs -/

section

variable {keep : Char → Bool}

/-- A named value, in which the characters that `keep` holds of stand as they are. -/
def pieceOf (keep : Char → Bool) (p : Text × Text) : Text :=
  Percent.encode keep p.1 ++ '=' :: Percent.encode keep p.2

theorem readPair?_pieceOf (hpercent : keep '%' = false) (hequals : keep '=' = false)
    (p : Text × Text) : readPair? (pieceOf keep p) = some p := by
  have hname : '=' ∉ Percent.encode keep p.1 :=
    Percent.not_mem_encode hequals (by decide) (by decide) p.1
  have hcut : Text.cut? '=' (pieceOf keep p) =
      some (Percent.encode keep p.1, Percent.encode keep p.2) :=
    (Text.cut?_eq_some_iff _ _ _ _).2 ⟨rfl, hname⟩
  simp only [readPair?, hcut, Percent.decode?_encode hpercent, Option.bind_eq_bind,
    Option.bind_some, Option.pure_def]

theorem mapM_readPair?_pieceOf (hpercent : keep '%' = false) (hequals : keep '=' = false)
    (ps : List (Text × Text)) : (ps.map (pieceOf keep)).mapM readPair? = some ps := by
  induction ps with
  | nil => rfl
  | cons p ps ih =>
    rw [List.map_cons, List.mapM_cons, readPair?_pieceOf hpercent hequals, ih]
    rfl

theorem ampersand_not_mem_pieceOf (hand : keep '&' = false) (p : Text × Text) :
    '&' ∉ pieceOf keep p := by
  rw [pieceOf, List.mem_append, List.mem_cons]
  rintro (hc | hc | hc)
  · exact Percent.not_mem_encode hand (by decide) (by decide) p.1 hc
  · exact absurd hc (by decide)
  · exact Percent.not_mem_encode hand (by decide) (by decide) p.2 hc

/-- Named values in which none of the three marks stands as it is are read as they were written. -/
theorem readQuery?_joined_pieceOf (hpercent : keep '%' = false) (hequals : keep '=' = false)
    (hand : keep '&' = false) (ps : List (Text × Text)) :
    readQuery? (Text.joined ['&'] (ps.map (pieceOf keep))) = some ps := by
  unfold readQuery?
  by_cases hps : ps = []
  · rw [hps]
    rfl
  · have hne : ps.map (pieceOf keep) ≠ [] := by simpa using hps
    have hsplit : (Text.joined ['&'] (ps.map (pieceOf keep))).splitOn '&' =
        ps.map (pieceOf keep) := by
      refine (Text.splitOn_joined_iff hne).2 fun part hpart => ?_
      obtain ⟨p, -, rfl⟩ := List.mem_map.1 hpart
      exact ampersand_not_mem_pieceOf hand p
    -- a pair is written with its equals sign, so that no pairs at all and one pair differ
    have hnil : Text.joined ['&'] (ps.map (pieceOf keep)) ≠ [] := by
      intro h
      rw [h] at hsplit
      obtain ⟨p, rest, rfl⟩ := List.exists_cons_of_ne_nil hps
      have hpiece : pieceOf keep p = [] := (List.cons.inj hsplit).1.symm
      simp [pieceOf] at hpiece
    rw [if_neg hnil, hsplit, mapM_readPair?_pieceOf hpercent hequals]

end

theorem not_mem_encodePair {c : Char} (h : Percent.isUnreserved c = false) (hpercent : c ≠ '%')
    (hequals : c ≠ '=') (p : Text × Text) : c ∉ encodePair p := by
  rw [encodePair, List.mem_append, List.mem_cons]
  rintro (hc | hc | hc)
  · exact not_mem_encodePart h hpercent p.1 hc
  · exact hequals hc
  · exact not_mem_encodePart h hpercent p.2 hc

theorem not_mem_encodePairs {c : Char} (h : Percent.isUnreserved c = false) (hpercent : c ≠ '%')
    (hequals : c ≠ '=') (hand : c ≠ '&') (ps : List (Text × Text)) : c ∉ encodePairs ps := by
  intro hc
  rcases Text.mem_joined hc with hc | ⟨part, hpart, hc⟩
  · exact hand (List.mem_singleton.1 hc)
  · obtain ⟨p, -, rfl⟩ := List.mem_map.1 hpart
    exact not_mem_encodePair h hpercent hequals p hc

theorem encodePairs_append {ps qs : List (Text × Text)} (hps : ps ≠ []) (hqs : qs ≠ []) :
    encodePairs (ps ++ qs) = encodePairs ps ++ '&' :: encodePairs qs := by
  unfold encodePairs
  rw [List.map_append, Text.joined_append ['&'] (by simpa using hps) (by simpa using hqs)]
  rfl

/-! ## Queries -/

/-- A query is read as the pairs that were written. -/
theorem readQuery?_encodePairs (ps : List (Text × Text)) :
    readQuery? (encodePairs ps) = some ps :=
  readQuery?_joined_pieceOf rfl rfl rfl ps

/-- A query is read as named values that give each name the values that came with it. -/
theorem exists_readQuery?_encodeQuery (parameters : List (Text × List Text)) :
    ∃ ps, readQuery? (encodeQuery parameters) = some ps ∧
      ∀ name, valuesNamed name ps = valuesNamed name (pairsOf parameters) :=
  ⟨_, readQuery?_encodePairs _, fun name => NameTable.valuesNamed_pairs_ofPairs name _⟩

/-- Queries that are equal give each name the same values. -/
theorem valuesNamed_eq_of_encodeQuery_eq {ps qs : List (Text × List Text)}
    (h : encodeQuery ps = encodeQuery qs) (name : Text) :
    valuesNamed name (pairsOf ps) = valuesNamed name (pairsOf qs) := by
  obtain ⟨pairs, hread, hvalues⟩ := exists_readQuery?_encodeQuery ps
  obtain ⟨pairs', hread', hvalues'⟩ := exists_readQuery?_encodeQuery qs
  rw [h, hread'] at hread
  cases hread
  rw [← hvalues, hvalues']

end SignedAccess.SignedUrl
