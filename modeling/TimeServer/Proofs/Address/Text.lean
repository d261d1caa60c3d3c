import TimeServer.Address

/-! # The text of addresses

The canonical text of an address, whichever zeros it leaves out, is read as that address and no
other.

* `Ipv4.read_chars`, `Ipv4.read_eq_none` — dotted texts, and texts that are none;
* `Ipv6.readGroups_joinGroups` — groups with colons between them are read as these groups;
* `Ipv6.groups_of_longestRun` — the groups that `::` stands for are zeros;
* `Ipv6.read_chars`, `IpAddress.parse?_text` — the text of an address is read as the address.
-/

namespace TimeServer

open TimeServer.Text

/-! ## IPv4 -/

namespace Ipv4

variable {rest : List Char}

theorem readByte_digits (byte : UInt8) (stops : ∀ c ∈ rest.head?, c.isDigit = false) :
    readByte (Decimal.digits byte.toNat ++ rest) = some (byte, rest) := by
  have inside : ∀ c ∈ Decimal.digits byte.toNat, c.isDigit :=
    fun _ => Decimal.isDigit_of_mem_digits
  -- One to three digits, and a leading zero only if it is the whole number.
  have shape : ∀ n < 256, 1 ≤ (Decimal.digits n).length ∧ (Decimal.digits n).length ≤ 3 ∧
      ((Decimal.digits n).head? = some '0' → (Decimal.digits n).length = 1) := by
    decide +kernel
  have small := byte.toNat_lt
  obtain ⟨some_digit, few, no_zero⟩ := shape byte.toNat small
  simp only [readByte, takeWhile_run inside stops, dropWhile_run inside stops,
    Decimal.value_digits]
  rw [if_pos ⟨some_digit, few, no_zero, by omega⟩, UInt8.ofNat_toNat]

/-- The dotted text of an address is read as the address, if no digit follows it. -/
theorem read_chars (ip : Ipv4) (stops : ∀ c ∈ rest.head?, c.isDigit = false) :
    read (ip.chars ++ rest) = some (ip, rest) := by
  have dot : ∀ cs : List Char, ∀ c ∈ ('.' :: cs).head?, c.isDigit = false := by
    rintro cs c ⟨⟩
    rfl
  have dotted : ip.chars ++ rest =
      Decimal.digits ip.a.toNat ++ '.' :: (Decimal.digits ip.b.toNat ++ '.' ::
        (Decimal.digits ip.c.toNat ++ '.' :: (Decimal.digits ip.d.toNat ++ rest))) := by
    simp [chars]
  rw [dotted]
  simp only [read, readByte_digits ip.a (dot _), readDotByte, readByte_digits ip.b (dot _),
    readByte_digits ip.c (dot _), readByte_digits ip.d stops, Option.bind_eq_bind,
    Option.bind_some]
  rfl

theorem read_whole (ip : Ipv4) : read ip.chars = some (ip, []) := by
  rw [← List.append_nil ip.chars]
  exact read_chars ip nofun

theorem read_eq_none {cs : List Char} (no_dot : (cs.dropWhile Char.isDigit).head? ≠ some '.') :
    read cs = none := by
  have no_second : readDotByte (cs.dropWhile Char.isDigit) = none := by
    unfold readDotByte
    split
    · rename_i following
      rw [following] at no_dot
      exact absurd rfl no_dot
    · rfl
  simp only [read, readByte]
  split
  · simp only [Option.bind_eq_bind, Option.bind_some, no_second, Option.bind_none]
  · rfl

end Ipv4

/-! ## IPv6 -/

namespace Ipv6

/-! ### Groups -/

theorem isDigit_of_mem_groupChars {g : UInt16} {c : Char} (member : c ∈ groupChars g) :
    Digit.isDigit 16 c :=
  Digit.isDigit_of_mem_toDigits (by decide) (by decide) member

theorem dot_notMem_groupChars (g : UInt16) : '.' ∉ groupChars g := fun member =>
  absurd (isDigit_of_mem_groupChars member) (by decide)

variable {rest : List Char}

theorem readGroup_groupChars (g : UInt16)
    (stops : ∀ c ∈ rest.head?, Digit.isDigit 16 c = false) :
    readGroup (groupChars g ++ rest) = some (g, rest) := by
  have inside : ∀ c ∈ groupChars g, Digit.isDigit 16 c := fun _ => isDigit_of_mem_groupChars
  have some_digit : 1 ≤ (groupChars g).length := Nat.length_toDigits_pos
  have few : (groupChars g).length ≤ 4 :=
    (Nat.length_toDigits_le_iff (by decide) (by decide)).2 g.toNat_lt
  have denotes : Digit.number 16 (groupChars g) = g.toNat :=
    Digit.number_toDigits (by decide) (by decide) g.toNat
  simp only [readGroup, takeWhile_run inside stops, dropWhile_run inside stops, denotes]
  rw [if_pos ⟨some_digit, few⟩, UInt16.ofNat_toNat]

/-- A run of groups ends here: with the text, or in front of `::`. -/
def Ends (rest : List Char) : Prop := rest = [] ∨ ∃ cs, rest = ':' :: ':' :: cs

/-- Groups each with a colon in front. -/
def colonGroups (groups : List UInt16) : List Char := groups.flatMap fun g => ':' :: groupChars g

theorem joinGroups_cons (g : UInt16) (groups : List UInt16) :
    joinGroups (g :: groups) = groupChars g ++ colonGroups groups := by
  induction groups generalizing g with
  | nil => simp [joinGroups, colonGroups]
  | cons next groups ih =>
    rw [joinGroups, ih next]
    · rfl
    · exact nofun

theorem eq_of_mem_head?_colon (cs : List Char) : ∀ c ∈ (':' :: cs).head?, c = ':' := by
  rintro c ⟨⟩
  rfl

theorem head?_colonGroups (groups : List UInt16) (ends : Ends rest) :
    ∀ c ∈ (colonGroups groups ++ rest).head?, c = ':' := by
  cases groups with
  | nil =>
    obtain rfl | ⟨cs, rfl⟩ := ends
    · exact nofun
    · exact eq_of_mem_head?_colon _
  | cons g groups => exact eq_of_mem_head?_colon _

theorem ipv4_read_of_colon {cs : List Char} (colon : ∀ c ∈ cs.head?, c = ':') :
    Ipv4.read cs = none := by
  apply Ipv4.read_eq_none
  cases cs with
  | nil => exact nofun
  | cons c cs =>
    rw [colon c rfl]
    exact nofun

theorem readGroup_of_colon {cs : List Char} (colon : ∀ c ∈ cs.head?, c = ':') :
    readGroup cs = none := by
  cases cs with
  | nil => rfl
  | cons c cs =>
    rw [colon c rfl]
    rfl

theorem ipv4_read_groupChars (g : UInt16) (colon : ∀ c ∈ rest.head?, c = ':') :
    Ipv4.read (groupChars g ++ rest) = none := by
  apply Ipv4.read_eq_none
  have no_dot := dot_notMem_groupChars g
  generalize groupChars g = ds at no_dot
  induction ds with
  | nil =>
    cases rest with
    | nil => exact nofun
    | cons c cs =>
      rw [colon c rfl]
      exact nofun
  | cons c ds ih =>
    rw [List.mem_cons, not_or] at no_dot
    rw [List.cons_append, List.dropWhile_cons]
    split
    · exact ih no_dot.2
    · intro dot
      exact no_dot.1 (Option.some.inj dot).symm

/-! ### Runs of groups -/

theorem readGroups_group {cs : List Char} {first : Bool} {g : UInt16}
    (skipped : skipColon first cs = some (groupChars g ++ rest))
    (colon : ∀ c ∈ rest.head?, c = ':') (limit : Nat) :
    readGroups (limit + 1) first cs =
      { readGroups limit false rest with groups := g :: (readGroups limit false rest).groups } := by
  have undotted : (if limit = 0 then none else (skipColon first cs).bind Ipv4.read) = none := by
    rw [skipped, Option.bind_some, ipv4_read_groupChars g colon, ite_self]
  have stops : ∀ c ∈ rest.head?, Digit.isDigit 16 c = false := by
    intro c member
    rw [colon c member]
    rfl
  have group : (skipColon first cs).bind readGroup = some (g, rest) := by
    rw [skipped, Option.bind_some, readGroup_groupChars g stops]
  rw [readGroups, undotted, group]

theorem readGroups_of_ends (ends : Ends rest) (limit : Nat) (first : Bool) :
    readGroups limit first rest = ⟨[], false, rest⟩ := by
  cases limit with
  | zero => rfl
  | succ limit =>
    have unread : (skipColon first rest).bind Ipv4.read = none ∧
        (skipColon first rest).bind readGroup = none := by
      obtain rfl | ⟨cs, rfl⟩ := ends
      · cases first <;> exact ⟨rfl, rfl⟩
      · -- A group would have to begin with the colon that is left.
        have colon := eq_of_mem_head?_colon
        cases first with
        | false => exact ⟨ipv4_read_of_colon (colon cs), readGroup_of_colon (colon cs)⟩
        | true =>
          exact ⟨ipv4_read_of_colon (colon (':' :: cs)), readGroup_of_colon (colon (':' :: cs))⟩
    rw [readGroups, unread.1, unread.2, ite_self]

theorem readGroups_colonGroups (ends : Ends rest) (groups : List UInt16) {limit : Nat}
    (fits : groups.length ≤ limit) :
    readGroups limit false (colonGroups groups ++ rest) = ⟨groups, false, rest⟩ := by
  induction groups generalizing limit with
  | nil => exact readGroups_of_ends ends limit false
  | cons g groups ih =>
    obtain ⟨limit, rfl⟩ : ∃ fewer, limit = fewer + 1 := ⟨limit - 1, by simp at fits; omega⟩
    have skipped : skipColon false (colonGroups (g :: groups) ++ rest) =
        some (groupChars g ++ (colonGroups groups ++ rest)) := by
      rw [← List.append_assoc]
      rfl
    rw [readGroups_group skipped (head?_colonGroups groups ends), ih (Nat.le_of_succ_le_succ fits)]

theorem readGroups_joinGroups (ends : Ends rest) (groups : List UInt16) {limit : Nat}
    (fits : groups.length ≤ limit) :
    readGroups limit true (joinGroups groups ++ rest) = ⟨groups, false, rest⟩ := by
  cases groups with
  | nil => exact readGroups_of_ends ends limit true
  | cons g groups =>
    obtain ⟨limit, rfl⟩ : ∃ fewer, limit = fewer + 1 := ⟨limit - 1, by simp at fits; omega⟩
    have skipped : skipColon true (joinGroups (g :: groups) ++ rest) =
        some (groupChars g ++ (colonGroups groups ++ rest)) := by
      rw [joinGroups_cons, List.append_assoc]
      rfl
    rw [readGroups_group skipped (head?_colonGroups groups ends),
      readGroups_colonGroups ends groups (Nat.le_of_succ_le_succ fits)]

theorem ipv4_read_joinGroups (ends : Ends rest) (groups : List UInt16) :
    Ipv4.read (joinGroups groups ++ rest) = none := by
  cases groups with
  | nil => exact ipv4_read_of_colon (head?_colonGroups [] ends)
  | cons g groups =>
    rw [joinGroups_cons, List.append_assoc]
    exact ipv4_read_groupChars g (head?_colonGroups groups ends)

/-! ### The longest run of zeros -/

theorem take_zeroRun (groups : List UInt16) (start : Nat) :
    (groups.drop start).take (zeroRun groups start) =
      List.replicate (zeroRun groups start) 0 := by
  have front : (groups.drop start).takeWhile (· == 0) =
      (groups.drop start).take (zeroRun groups start) :=
    List.prefix_iff_eq_take.1 (List.takeWhile_prefix _)
  rw [← front, List.eq_replicate_iff]
  refine ⟨rfl, fun g member => ?_⟩
  exact eq_of_beq (List.all_eq_true.1 List.all_takeWhile g member)

theorem longestRun_cases (groups : List UInt16) :
    (longestRun groups).2 = 0 ∨
      (longestRun groups).2 = zeroRun groups (longestRun groups).1 := by
  -- The best run so far stays one, whichever places are still to be looked at.
  have best : ∀ (places : List Nat) (best : Nat × Nat),
      best.2 = 0 ∨ best.2 = zeroRun groups best.1 →
      let last := places.foldl
        (fun best start =>
          if best.2 < zeroRun groups start then (start, zeroRun groups start) else best) best
      last.2 = 0 ∨ last.2 = zeroRun groups last.1 := by
    intro places
    induction places with
    | nil => exact fun _ known => known
    | cons start places ih =>
      intro best known
      apply ih
      dsimp only
      split
      · exact .inr rfl
      · exact known
  exact best _ _ (.inl rfl)

theorem groups_of_longestRun {groups : List UInt16} {start length : Nat}
    (longest : longestRun groups = (start, length)) (several : 1 < length) :
    groups.take start ++ List.replicate length 0 ++ groups.drop (start + length) = groups ∧
      start + length ≤ groups.length := by
  have run : length = zeroRun groups start := by
    have cases := longestRun_cases groups
    rw [longest] at cases
    obtain none_found | found := cases
    · simp only at none_found
      omega
    · exact found
  have zeros := take_zeroRun groups start
  rw [← run] at zeros
  have count : length ≤ (groups.drop start).length := by
    have taken := congrArg List.length zeros
    rw [List.length_take, List.length_replicate] at taken
    omega
  rw [List.length_drop] at count
  refine ⟨?_, by omega⟩
  rw [← zeros, List.append_assoc, ← List.drop_drop, List.take_append_drop, List.take_append_drop]

/-! ### Mapped addresses -/

theorem groupsOfIpv4_ipv4OfGroups (hi lo : UInt16) :
    groupsOfIpv4 (ipv4OfGroups hi lo) = [hi, lo] := by
  have halves : ∀ g : UInt16, (g / 256).toUInt8.toUInt16 * 256 + g.toUInt8.toUInt16 = g := by
    intro g
    have bound := g.toNat_lt
    apply UInt16.toNat_inj.1
    simp only [UInt16.toUInt16_toUInt8, UInt16.toNat_add, UInt16.toNat_mul, UInt16.toNat_mod,
      UInt16.toNat_div, UInt16.reduceToNat]
    omega
  simp only [groupsOfIpv4, ipv4OfGroups, halves]

theorem ipv4OfGroups_groupsOfIpv4 (ip : Ipv4) :
    ipv4OfGroups (ip.a.toUInt16 * 256 + ip.b.toUInt16) (ip.c.toUInt16 * 256 + ip.d.toUInt16) =
      ip := by
  have high : ∀ x y : UInt8, ((x.toUInt16 * 256 + y.toUInt16) / 256).toUInt8 = x := by
    intro x y
    have high_bound := x.toNat_lt
    have low_bound := y.toNat_lt
    apply UInt8.toNat_inj.1
    simp only [UInt16.toNat_toUInt8, UInt16.toNat_div, UInt16.toNat_add, UInt16.toNat_mul,
      UInt8.toNat_toUInt16, UInt16.reduceToNat]
    omega
  have low : ∀ x y : UInt8, (x.toUInt16 * 256 + y.toUInt16).toUInt8 = y := by
    intro x y
    apply UInt8.toNat_inj.1
    simp
  simp only [ipv4OfGroups, high, low]

@[simp] theorem toMapped?_mapped (ip : Ipv4) : (mapped ip).toMapped? = some ip := by
  simp [toMapped?, mapped, groupsOfIpv4, ipv4OfGroups_groupsOfIpv4]

theorem eq_mapped_of_toMapped? {ip : Ipv6} {v4 : Ipv4} (is_mapped : ip.toMapped? = some v4) :
    ip = mapped v4 := by
  obtain ⟨groups, length⟩ := ip
  simp only [toMapped?] at is_mapped
  split at is_mapped
  · rename_i hi lo
    cases is_mapped
    simp [mapped, groupsOfIpv4_ipv4OfGroups]
  · cases is_mapped

/-! ### Whole addresses -/

theorem readGroups_dotted (ip : Ipv4) (limit : Nat) :
    readGroups (limit + 2) false (':' :: ip.chars) = ⟨groupsOfIpv4 ip, true, []⟩ := by
  have dotted : (if limit + 1 = 0 then none
      else (skipColon false (':' :: ip.chars)).bind Ipv4.read) = some (ip, []) := by
    simp [skipColon, Ipv4.read_whole]
  rw [readGroups, dotted]

theorem read_compressed {cs rest : List Char} {front back : List UInt16} {dotted : Bool}
    (head : readGroups 8 true cs = ⟨front, false, ':' :: ':' :: rest⟩) (short : front.length < 8)
    (tail : readGroups (7 - front.length) true rest = ⟨back, dotted, []⟩) :
    read cs = (ofGroups? (front ++
      List.replicate (8 - front.length - back.length) 0 ++ back)).map (·, []) := by
  rw [read, head]
  simp only [Nat.ne_of_lt short, if_false, tail]
  rfl

theorem read_mappedChars (v4 : Ipv4) :
    read ([':', ':', 'f', 'f', 'f', 'f', ':'] ++ v4.chars) = some (mapped v4, []) := by
  have head := readGroups_of_ends (.inr ⟨['f', 'f', 'f', 'f', ':'] ++ v4.chars, rfl⟩) 8 true
  have skipped : skipColon true (['f', 'f', 'f', 'f', ':'] ++ v4.chars) =
      some (groupChars 0xFFFF ++ ':' :: v4.chars) := rfl
  have tail : readGroups 7 true (['f', 'f', 'f', 'f', ':'] ++ v4.chars) =
      ⟨0xFFFF :: groupsOfIpv4 v4, true, []⟩ := by
    rw [readGroups_group skipped (eq_of_mem_head?_colon _), readGroups_dotted]
  exact read_compressed head (by decide) tail

theorem ofGroups?_groups (ip : Ipv6) : ofGroups? ip.groups = some ip := dif_pos ip.length_groups

theorem read_of_longestRun {ip : Ipv6} {start length : Nat}
    (longest : longestRun ip.groups = (start, length)) (several : 1 < length) :
    read (joinGroups (ip.groups.take start) ++ ':' :: ':' ::
      joinGroups (ip.groups.drop (start + length))) = some (ip, []) := by
  have size := ip.length_groups
  obtain ⟨groups, inside⟩ := groups_of_longestRun longest several
  have front_size : (ip.groups.take start).length = start := List.length_take_of_le (by omega)
  have back_size : (ip.groups.drop (start + length)).length = 8 - start - length := by
    rw [List.length_drop]
    omega
  have head := readGroups_joinGroups
    (.inr ⟨joinGroups (ip.groups.drop (start + length)), rfl⟩) (ip.groups.take start)
    (show _ ≤ 8 by omega)
  have tail := readGroups_joinGroups (.inl rfl) (ip.groups.drop (start + length))
    (show _ ≤ 7 - (ip.groups.take start).length by omega)
  rw [List.append_nil] at tail
  -- As many zeros are put in as were left out.
  have zeros : 8 - (ip.groups.take start).length -
      (ip.groups.drop (start + length)).length = length := by
    omega
  rw [read_compressed head (by omega) tail, zeros, groups, ofGroups?_groups]
  rfl

theorem read_chars (ip : Ipv6) : read ip.chars = some (ip, []) := by
  unfold chars
  split
  · rename_i v4 is_mapped
    rw [eq_mapped_of_toMapped? is_mapped]
    exact read_mappedChars v4
  · rcases longest : longestRun ip.groups with ⟨start, length⟩
    dsimp only
    split
    · rename_i several
      exact read_of_longestRun longest several
    · have size := ip.length_groups
      have head := readGroups_joinGroups (.inl rfl) ip.groups (Nat.le_of_eq size)
      rw [List.append_nil] at head
      rw [read, head]
      simp [ofGroups?_groups, size]

theorem ipv4_read_chars (ip : Ipv6) : Ipv4.read ip.chars = none := by
  unfold chars
  split
  · exact ipv4_read_of_colon (eq_of_mem_head?_colon _)
  · dsimp only
    split
    · exact ipv4_read_joinGroups (.inr ⟨_, rfl⟩) _
    · have unread := ipv4_read_joinGroups (.inl rfl) ip.groups
      rwa [List.append_nil] at unread

end Ipv6

/-! ## Both families -/

namespace IpAddress

theorem ofChars?_chars (ip : IpAddress) : ofChars? ip.chars = some ip := by
  cases ip with
  | v4 ip => simp only [ofChars?, chars, Ipv4.read_whole]
  | v6 ip => simp only [ofChars?, chars, Ipv6.ipv4_read_chars, Ipv6.read_chars]

theorem parse?_text (ip : IpAddress) : parse? ip.text = some ip := by
  rw [parse?, text, String.toList_ofList, ofChars?_chars]

end IpAddress

end TimeServer
