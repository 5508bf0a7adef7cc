import ProxyGate.Address.V6
import ProxyGate.Proofs.Address.V4
import Mathlib.Data.List.Induction

/-!
# IPv6 addresses written and read back

`V6.ofChars?_chars` is the round trip over all addresses.  An address is written in one of three
forms, and each form is read back by a lemma of its own:

* eight groups (`ofChars?_groupChars`), a text without `::`;
* groups around one `::` (`ofChars?_gap`), which `longestZeros` puts where the groups are zero;
* `::ffff:` and a dotted address (`ofChars?_mapped`).

The reader looks for the first `::` and splits at the colons.  `cutGap?_groupChars_append` is the
fact that a run of groups never holds a `::` and never ends in a colon, so the first `::` is the
one that was written.  The last section bounds the text by 39 characters and says which they are.
-/

namespace ProxyGate.Address.V6

open ProxyGate.Text

/-! ## One group -/

/-- A written group is read back. -/
theorem group?_hexadecimal (group : UInt16) : group? (hexadecimal group.toNat) = some group := by
  have hlength := length_hexadecimal_uint16 group
  rw [group?, if_neg (by omega), hexadecimal, natOf?_toDigits (by decide) (by decide)]
  simp

/-- A character of a written group stands for a digit. -/
theorem isSome_digitOf?_of_mem_hexadecimal {value : Nat} {c : Char} (hc : c ∈ hexadecimal value) :
    (digitOf? 16 c).isSome :=
  isSome_digitOf?_of_mem_toDigits (by decide) (by decide) hc

theorem colon_not_mem_hexadecimal (value : Nat) : ':' ∉ hexadecimal value := fun hc =>
  absurd (isSome_digitOf?_of_mem_hexadecimal hc) (by decide)

/-- What is read as a group consists of digits. -/
theorem isSome_digitOf?_of_group? {digits : List Char} {group : UInt16}
    (h : group? digits = some group) {c : Char} (hc : c ∈ digits) : (digitOf? 16 c).isSome := by
  rw [group?, Option.ite_none_left_eq_some, Option.map_eq_some_iff] at h
  obtain ⟨_, value, hvalue, _⟩ := h
  rw [natOf?, Option.ite_none_left_eq_some] at hvalue
  exact isSome_digitOf?_of_natFrom? hvalue.2 hc

/-- No IPv4 text is read as a group. -/
theorem group?_chars_v4 (ip : V4) : group? ip.chars = none := by
  cases h : group? ip.chars with
  | none => rfl
  | some group =>
    exact absurd (isSome_digitOf?_of_group? h (V4.dot_mem_chars ip)) (by decide)

/-! ## Runs of groups -/

/-- The texts of groups, one by one. -/
def groupTexts (groups : List UInt16) : List (List Char) :=
  groups.map fun group => hexadecimal group.toNat

theorem groupChars_cons_cons (group next : UInt16) (groups : List UInt16) :
    groupChars (group :: next :: groups) =
      hexadecimal group.toNat ++ ':' :: groupChars (next :: groups) := by
  simp [groupChars]

/-- A run of groups does not start with a colon. -/
theorem groupChars_cons (group : UInt16) (groups : List UInt16) :
    ∃ c rest, groupChars (group :: groups) = c :: rest ∧ c ≠ ':' := by
  obtain ⟨c, rest, hhex⟩ : ∃ c rest, hexadecimal group.toNat = c :: rest :=
    List.exists_cons_of_ne_nil Nat.toDigits_ne_nil
  have hc : c ≠ ':' := by
    rintro rfl
    exact colon_not_mem_hexadecimal group.toNat (by rw [hhex]; simp)
  cases groups with
  | nil => exact ⟨c, rest, by simp [groupChars, hhex], hc⟩
  | cons next groups => exact ⟨c, _, by rw [groupChars_cons_cons, hhex, List.cons_append], hc⟩

/-- The pieces of a run of groups are the texts of the groups. -/
theorem pieces_groupChars (groups : List UInt16) :
    pieces (groupChars groups) = groupTexts groups := by
  cases groups with
  | nil => rfl
  | cons group groups =>
    obtain ⟨c, rest, hcons, _⟩ := groupChars_cons group groups
    rw [pieces, if_neg (by rw [hcons]; simp)]
    refine List.splitOn_intercalate ':' ?_ (by simp)
    intro piece hpiece
    obtain ⟨other, _, rfl⟩ := List.mem_map.mp hpiece
    exact colon_not_mem_hexadecimal other.toNat

theorem mapM_group?_groupTexts (groups : List UInt16) :
    (groupTexts groups).mapM group? = some groups := by
  induction groups with
  | nil => rfl
  | cons group groups ih =>
    rw [groupTexts, List.map_cons, List.mapM_cons, group?_hexadecimal, ← groupTexts, ih]
    rfl

/-- Pieces that are groups may be followed by pieces of any kind. -/
theorem groups?_groupTexts_append (groups : List UInt16) {rest : List (List Char)}
    (hne : rest ≠ []) :
    groups? (groupTexts groups ++ rest) = (groups? rest).map (groups ++ ·) := by
  induction groups with
  | nil => simp [groupTexts]
  | cons group groups ih =>
    have htail : groupTexts groups ++ rest ≠ [] := by simp [hne]
    obtain ⟨piece, pieces, hcons⟩ := List.exists_cons_of_ne_nil htail
    rw [show groupTexts (group :: groups) ++ rest =
      hexadecimal group.toNat :: (groupTexts groups ++ rest) from rfl, hcons, groups?,
      group?_hexadecimal, ← hcons, ih]
    · cases groups? rest <;> rfl
    · simp

theorem groups?_groupTexts (groups : List UInt16) : groups? (groupTexts groups) = some groups := by
  cases groups using List.reverseRecOn with
  | nil => rfl
  | append_singleton groups group =>
    rw [groupTexts, List.map_append, ← groupTexts, groups?_groupTexts_append groups (by simp)]
    simp [groups?, group?_hexadecimal]

/-! ## The first gap -/

/-- A text without colons holds no part of a gap. -/
theorem cutGap?_append_of_colon_not_mem {piece : List Char} (h : ':' ∉ piece)
    (rest : List Char) :
    cutGap? (piece ++ rest) =
      (cutGap? rest).map fun (before, after) => (piece ++ before, after) := by
  induction piece with
  | nil => simp
  | cons c piece ih =>
    rw [List.mem_cons, not_or] at h
    rw [List.cons_append, cutGap?, if_neg (fun hc => h.1 hc.1.symm), ih h.2, Option.map_map]
    rfl

/-- Groups in front of a text do not move its first gap. -/
theorem cutGap?_groupChars_append (groups : List UInt16) (rest : List Char) :
    cutGap? (groupChars groups ++ rest) =
      (cutGap? rest).map fun (before, after) => (groupChars groups ++ before, after) := by
  induction groups with
  | nil => simp [groupChars]
  | cons group groups ih =>
    cases groups with
    | nil =>
      simpa [groupChars] using
        cutGap?_append_of_colon_not_mem (colon_not_mem_hexadecimal group.toNat) rest
    | cons next groups =>
      -- the colon behind `group` starts no gap, because a group follows it
      obtain ⟨c, tail, hcons, hc⟩ := groupChars_cons next groups
      have hhead : ¬(':' = ':' ∧ (groupChars (next :: groups) ++ rest).head? = some ':') := by
        rw [hcons]
        simpa using hc
      rw [groupChars_cons_cons, List.append_assoc,
        cutGap?_append_of_colon_not_mem (colon_not_mem_hexadecimal group.toNat), List.cons_append,
        cutGap?, if_neg hhead, ih]
      cases cutGap? rest <;> simp

/-! ## The longest run of zero groups -/

/-- The run that `longestZeros` gives consists of zero groups. -/
theorem longestZeros_le_zerosFrom (groups : List UInt16) :
    (longestZeros groups).2 ≤ zerosFrom groups (longestZeros groups).1 := by
  have hfold : ∀ (starts : List Nat) (best : Nat × Nat), best.2 ≤ zerosFrom groups best.1 →
      let last := starts.foldl (fun best start =>
        let length := zerosFrom groups start
        if best.2 < length then (start, length) else best) best
      last.2 ≤ zerosFrom groups last.1 := by
    intro starts
    induction starts with
    | nil => exact fun best hbest => hbest
    | cons start starts ih =>
      intro best hbest
      refine ih _ ?_
      dsimp only
      split
      · exact Nat.le_refl _
      · exact hbest
  exact hfold _ (0, 0) (Nat.zero_le _)

/-- Zero groups, as far as `zerosFrom` counts them. -/
theorem take_drop_of_le_zerosFrom {groups : List UInt16} {start length : Nat}
    (h : length ≤ zerosFrom groups start) :
    (groups.drop start).take length = List.replicate length 0 ∧
      length ≤ groups.length - start := by
  have hprefix := List.takeWhile_prefix (l := groups.drop start) (fun group => decide (group = 0))
  have hbound : length ≤ groups.length - start := by
    have := hprefix.length_le
    rw [List.length_drop] at this
    exact Nat.le_trans h this
  refine ⟨?_, hbound⟩
  have htake : (groups.drop start).take length =
      ((groups.drop start).takeWhile (fun group => decide (group = 0))).take length := by
    rw [List.prefix_iff_eq_take.mp hprefix, List.take_take]
    exact congrArg (List.take · _) (Nat.min_eq_left h).symm
  rw [htake, List.eq_replicate_iff]
  refine ⟨by rw [List.length_take]; exact Nat.min_eq_left h, ?_⟩
  intro group hgroup
  have hall := List.all_takeWhile (p := fun group => decide (group = 0)) (l := groups.drop start)
  simpa using List.all_eq_true.mp hall group (List.mem_of_mem_take hgroup)

/-! ## The three forms -/

/-- Eight groups without a gap are read. -/
theorem ofChars?_groupChars (ip : V6) : ofChars? (groupChars ip.groups) = some ip := by
  have hgap : cutGap? (groupChars ip.groups) = none := by
    simpa [cutGap?] using cutGap?_groupChars_append ip.groups []
  rw [ofChars?, hgap]
  simp only [pieces_groupChars, groups?_groupTexts, Option.bind_some, ofGroups?,
    dif_pos ip.length_groups]

/-- A gap between groups stands for the zero groups that are missing. -/
theorem fillGap?_of_groups {front back : List UInt16} {ip : V6} (length : Nat)
    (hlength : 0 < length) (hgroups : ip.groups = front ++ List.replicate length 0 ++ back) :
    fillGap? front back = some ip := by
  have height : front.length + length + back.length = 8 := by
    have h := ip.length_groups
    rwa [hgroups, List.length_append, List.length_append, List.length_replicate] at h
  rw [fillGap?, if_pos (by omega), show 8 - (front.length + back.length) = length by omega,
    ← hgroups, ofGroups?, dif_pos ip.length_groups]

/-- Groups around a gap are read. -/
theorem ofChars?_gap {front back : List UInt16} {ip : V6} (length : Nat) (hlength : 0 < length)
    (hgroups : ip.groups = front ++ List.replicate length 0 ++ back) :
    ofChars? (groupChars front ++ ':' :: ':' :: groupChars back) = some ip := by
  have hgap : cutGap? (groupChars front ++ ':' :: ':' :: groupChars back) =
      some (groupChars front, groupChars back) := by
    rw [cutGap?_groupChars_append, cutGap?, if_pos ⟨rfl, rfl⟩]
    simp
  rw [ofChars?, hgap]
  simp only [pieces_groupChars, mapM_group?_groupTexts, groups?_groupTexts, Option.bind_eq_bind,
    Option.bind_some]
  exact fillGap?_of_groups length hlength hgroups

/-- The two groups that hold an IPv4 address are found again. -/
theorem groupsOfV4_v4OfGroups (high low : UInt16) :
    groupsOfV4 (v4OfGroups high low) = [high, low] := by
  have hgroup : ∀ group : UInt16,
      (group / 256).toUInt8.toUInt16 * 256 + (group % 256).toUInt8.toUInt16 = group := by
    intro group
    apply UInt16.toNat_inj.mp
    have hlt := group.toNat_lt
    simp only [UInt16.toNat_add, UInt16.toNat_mul, UInt8.toNat_toUInt16, UInt16.toNat_toUInt8,
      UInt16.toNat_div, UInt16.toNat_mod, UInt16.reduceToNat]
    omega
  simp only [groupsOfV4, v4OfGroups, hgroup]

/-- An IPv4-mapped address in its dotted form is read. -/
theorem ofChars?_mapped {ip : V6} {v4 : V4} (h : ip.mapped? = some v4) :
    ofChars? ("::ffff:".toList ++ v4.chars) = some ip := by
  obtain ⟨high, low, hgroups, rfl⟩ : ∃ high low,
      ip.groups = [0, 0, 0, 0, 0, 0xFFFF, high, low] ∧ v4 = v4OfGroups high low := by
    unfold mapped? at h
    split at h
    · rename_i high low heq
      exact ⟨high, low, heq, (Option.some.inj h).symm⟩
    · cases h
  have hcolon : ':' ∉ (v4OfGroups high low).chars :=
    V4.not_mem_chars _ (by decide) (by decide)
  have hgap : cutGap? ("::ffff:".toList ++ (v4OfGroups high low).chars) =
      some ([], "ffff".toList ++ ':' :: (v4OfGroups high low).chars) := rfl
  have hpieces : pieces ("ffff".toList ++ ':' :: (v4OfGroups high low).chars) =
      groupTexts [0xFFFF] ++ [(v4OfGroups high low).chars] := by
    rw [pieces, if_neg (by simp), List.splitOn_append_cons_self_of_not_mem (by decide),
      List.splitOn_eq_singleton hcolon]
    rfl
  have hback : groups? (groupTexts [0xFFFF] ++ [(v4OfGroups high low).chars]) =
      some [0xFFFF, high, low] := by
    rw [groups?_groupTexts_append _ (by simp), groups?, group?_chars_v4, V4.ofChars?_chars,
      Option.map_some, groupsOfV4_v4OfGroups]
    rfl
  rw [ofChars?, hgap]
  simp only [hpieces, hback, show pieces [] = [] from rfl, List.mapM_nil, Option.pure_def,
    Option.bind_eq_bind, Option.bind_some]
  exact fillGap?_of_groups 5 (by decide) hgroups

/-- A written IPv6 address is read back. -/
theorem ofChars?_chars (ip : V6) : ofChars? ip.chars = some ip := by
  unfold chars
  split
  · rename_i v4 hmapped
    exact ofChars?_mapped hmapped
  · dsimp only
    split
    · exact ofChars?_groupChars ip
    · rename_i hlength
      obtain ⟨hzeros, hbound⟩ := take_drop_of_le_zerosFrom (longestZeros_le_zerosFrom ip.groups)
      refine ofChars?_gap (longestZeros ip.groups).2 (by omega) ?_
      rw [← hzeros, List.append_assoc, ← List.drop_drop, List.take_append_drop,
        List.take_append_drop]

/-! ## The written text -/

/-- A character of a run of groups is a colon or stands for a digit. -/
theorem isSome_digitOf?_of_mem_groupChars {groups : List UInt16} {c : Char}
    (hc : c ∈ groupChars groups) : c = ':' ∨ (digitOf? 16 c).isSome := by
  rcases mem_intercalate hc with hcolon | ⟨piece, hpiece, hmem⟩
  · exact Or.inl hcolon
  · obtain ⟨group, _, rfl⟩ := List.mem_map.mp hpiece
    exact Or.inr (isSome_digitOf?_of_mem_hexadecimal hmem)

/-- A character of an IPv6 text is a colon, a dot or stands for a digit. -/
theorem isSome_digitOf?_of_mem_chars {ip : V6} {c : Char} (hc : c ∈ ip.chars) :
    c = ':' ∨ c = '.' ∨ (digitOf? 16 c).isSome := by
  have hrun : ∀ {groups : List UInt16}, c ∈ groupChars groups →
      c = ':' ∨ c = '.' ∨ (digitOf? 16 c).isSome := fun h =>
    (isSome_digitOf?_of_mem_groupChars h).imp_right Or.inr
  unfold chars at hc
  split at hc
  · rcases List.mem_append.mp hc with hc | hc
    · have hfixed : ("::ffff:".toList.all fun d => d = ':' || (digitOf? 16 d).isSome) = true := by
        decide
      have hcolon : c = ':' ∨ (digitOf? 16 c).isSome := by
        simpa using List.all_eq_true.mp hfixed c hc
      exact hcolon.imp_right Or.inr
    · rcases V4.eq_dot_or_isDigit_of_mem_chars hc with hdot | hdigit
      · exact Or.inr (Or.inl hdot)
      · exact Or.inr (Or.inr (isSome_digitOf?_of_isDigit hdigit))
  · dsimp only at hc
    split at hc
    · exact hrun hc
    · simp only [List.mem_append, List.mem_cons] at hc
      rcases hc with hc | hc | hc | hc
      · exact hrun hc
      · exact Or.inl hc
      · exact Or.inl hc
      · exact hrun hc

theorem not_mem_chars (ip : V6) {c : Char} (hcolon : c ≠ ':') (hdot : c ≠ '.')
    (hdigit : ¬(digitOf? 16 c).isSome) : c ∉ ip.chars := by
  intro hc
  rcases isSome_digitOf?_of_mem_chars hc with h | h | h
  · exact hcolon h
  · exact hdot h
  · exact hdigit h

/-- A run of groups has at most five characters for each group. -/
theorem length_groupChars_le (groups : List UInt16) :
    (groupChars groups).length ≤ 5 * groups.length - 1 := by
  cases groups with
  | nil => simp [groupChars]
  | cons group rest =>
    have hpieces : ∀ piece ∈ groupTexts (group :: rest), piece.length ≤ 4 := by
      intro piece hpiece
      obtain ⟨other, _, rfl⟩ := List.mem_map.mp hpiece
      exact length_hexadecimal_uint16 other
    have h := length_intercalate_lt ':' (by simp [groupTexts]) hpieces
    rw [groupTexts, List.length_map] at h
    exact Nat.le_sub_one_of_lt h

/-- An IPv6 text has at most 39 characters. -/
theorem length_chars_le (ip : V6) : ip.chars.length ≤ 39 := by
  have height := ip.length_groups
  unfold chars
  split
  · rename_i v4 _
    have hv4 := V4.length_chars_le v4
    rw [List.length_append, show "::ffff:".toList.length = 7 from rfl]
    omega
  · dsimp only
    split
    · have hrun := length_groupChars_le ip.groups
      omega
    · have hbound := (take_drop_of_le_zerosFrom (longestZeros_le_zerosFrom ip.groups)).2
      have hfront := length_groupChars_le (ip.groups.take (longestZeros ip.groups).1)
      have hback := length_groupChars_le
        (ip.groups.drop ((longestZeros ip.groups).1 + (longestZeros ip.groups).2))
      simp only [List.length_append, List.length_cons, List.length_take, List.length_drop]
        at hfront hback ⊢
      omega

end ProxyGate.Address.V6
