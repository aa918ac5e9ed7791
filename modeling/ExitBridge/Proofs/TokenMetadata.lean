/-
  Token metadata that is cut short, or followed by other bytes.

  Reading looks at words and slices, and these say the same in every byte string that goes on from
  one where they are there. So what reads at all reads the same when bytes follow; the packed form
  reads back from the end of the symbol on, and before that end the symbol is not all there.

  * `decode?_mono`: bytes that follow change nothing.
  * `decode?_eq_some_iff`, `readText?_eq_some_iff`: where reading succeeds, and with what.
  * `decode?_unpadded`: the packed form without the padding of its symbol reads back.
  * `encode_cut_or_extended`: the packed form, cut anywhere and followed by anything.
-/
import ExitBridge.Proofs.Bytes
import ExitBridge.TokenMetadata

namespace ExitBridge

namespace TokenMetadata

variable {data longer bs : Bytes} {start length n : Nat} {s : String} {m : TokenMetadata}

/-! ## Bytes that follow -/

theorem slice?_eq_some_iff : slice? data start length = some bs ↔
    start + length ≤ data.length ∧ (data.drop start).take length = bs := by
  rw [slice?, Option.ite_none_right_eq_some, Option.some.injEq]

theorem slice?_mono (h : slice? data start length = some bs) (follow : data <+: longer) :
    slice? longer start length = some bs := by
  obtain ⟨inside, taken⟩ := slice?_eq_some_iff.1 h
  obtain ⟨more, rfl⟩ := follow
  refine slice?_eq_some_iff.2 ⟨by rw [List.length_append]; omega, ?_⟩
  rw [List.drop_append_of_le_length (by omega), List.take_append_of_le_length, taken]
  rw [List.length_drop]
  omega

theorem readWord?_eq_some_iff : readWord? data start = some n ↔
    ∃ bs, slice? data start 32 = some bs ∧ ofBigEndian bs = n ∧ n < 2 ^ 64 := by
  simp only [readWord?, Option.filter_eq_some_iff, Option.map_eq_some_iff, decide_eq_true_eq]
  constructor
  · rintro ⟨⟨bs, there, number⟩, small⟩
    exact ⟨bs, there, number, small⟩
  · rintro ⟨bs, there, number, small⟩
    exact ⟨⟨bs, there, number⟩, small⟩

theorem readWord?_mono (h : readWord? data start = some n) (follow : data <+: longer) :
    readWord? longer start = some n := by
  obtain ⟨bs, there, number⟩ := readWord?_eq_some_iff.1 h
  exact readWord?_eq_some_iff.2 ⟨bs, slice?_mono there follow, number⟩

theorem utf8_eq (s : String) : utf8 s = s.toByteArray.data.toList := toList_eq s.toByteArray

theorem text?_eq_some_iff : text? bs = some s ↔ bs = utf8 s := by
  rw [text?, String.fromUTF8?, utf8_eq]
  constructor
  · intro h
    split at h
    · cases h
      rfl
    · cases h
  · rintro rfl
    exact dif_pos s.isValidUTF8

theorem readText?_eq_some_iff : readText? data start = some s ↔
    readWord? data start = some (utf8 s).length ∧
      slice? data (start + 32) (utf8 s).length = some (utf8 s) := by
  simp only [readText?, Option.bind_eq_bind, Option.bind_eq_some_iff, text?_eq_some_iff]
  constructor
  · rintro ⟨length, word, _, there, rfl⟩
    obtain ⟨inside, taken⟩ := slice?_eq_some_iff.1 there
    have whole : (utf8 s).length = length := by
      rw [← taken, List.length_take, List.length_drop]
      omega
    rw [whole]
    exact ⟨word, there⟩
  · rintro ⟨word, there⟩
    exact ⟨_, word, _, there, rfl⟩

theorem readText?_mono (h : readText? data start = some s) (follow : data <+: longer) :
    readText? longer start = some s := by
  obtain ⟨word, there⟩ := readText?_eq_some_iff.1 h
  exact readText?_eq_some_iff.2 ⟨readWord?_mono word follow, slice?_mono there follow⟩

/-- Metadata is read where the head says that its texts start. -/
theorem decode?_eq_some_iff : decode? data = some m ↔
    readWord? data 64 = some m.decimals.toNat ∧
      (∃ nameStart, readWord? data 0 = some nameStart ∧ readText? data nameStart = some m.name) ∧
      ∃ symbolStart, readWord? data 32 = some symbolStart ∧
        readText? data symbolStart = some m.symbol := by
  obtain ⟨name, symbol, decimals⟩ := m
  simp only [decode?, Option.bind_eq_bind, Option.bind_eq_some_iff, Option.ite_none_right_eq_some,
    Option.pure_def, Option.some.injEq, TokenMetadata.mk.injEq]
  constructor
  · rintro ⟨nameStart, hname, symbolStart, hsymbol, number, hnumber, small, _, nameRead, _,
      symbolRead, rfl, rfl, rfl⟩
    have whole : (UInt8.ofNat number).toNat = number :=
      UInt8.toNat_ofNat_of_lt' (Nat.lt_succ_of_le small)
    rw [whole]
    exact ⟨hnumber, ⟨nameStart, hname, nameRead⟩, symbolStart, hsymbol, symbolRead⟩
  · rintro ⟨hnumber, ⟨nameStart, hname, nameRead⟩, symbolStart, hsymbol, symbolRead⟩
    exact ⟨nameStart, hname, symbolStart, hsymbol, _, hnumber,
      Nat.le_of_lt_succ decimals.toNat_lt, name, nameRead, symbol, symbolRead, rfl, rfl,
      UInt8.ofNat_toNat⟩

/-- Bytes that follow change nothing. -/
theorem decode?_mono (h : decode? data = some m) (follow : data <+: longer) :
    decode? longer = some m := by
  obtain ⟨decimals, ⟨nameStart, hname, name⟩, symbolStart, hsymbol, symbol⟩ :=
    decode?_eq_some_iff.1 h
  exact decode?_eq_some_iff.2 ⟨readWord?_mono decimals follow,
    ⟨nameStart, readWord?_mono hname follow, readText?_mono name follow⟩,
    symbolStart, readWord?_mono hsymbol follow, readText?_mono symbol follow⟩

/-! ## The packed form -/

@[simp] theorem length_word (n : Nat) : (word n).length = 32 := length_bigEndian 32 n

theorem le_padded (n : Nat) : n ≤ padded n := by
  rw [padded]
  omega

@[simp] theorem length_tail (bs : Bytes) : (tail bs).length = 32 + padded bs.length := by
  have := le_padded bs.length
  simp only [tail, List.length_append, length_word, List.length_replicate]
  omega

theorem readWord?_word (front : Bytes) (behind : front.length = start) (fits : n < 2 ^ 64) :
    readWord? (front ++ word n) start = some n := by
  refine readWord?_eq_some_iff.2 ⟨word n, slice?_eq_some_iff.2 ⟨?_, ?_⟩, ?_, fits⟩
  · exact Nat.le_of_eq (by rw [List.length_append, length_word, behind])
  · rw [← behind, List.drop_left, List.take_of_length_le (Nat.le_of_eq (length_word n))]
  · rw [word, ofBigEndian_bigEndian, Nat.mod_eq_of_lt (by omega)]

/-- A text reads back behind any bytes; its padding is not looked at. -/
theorem readText?_word_utf8 (front : Bytes) (behind : front.length = start)
    (fits : (utf8 s).length < 2 ^ 64) :
    readText? (front ++ word (utf8 s).length ++ utf8 s) start = some s := by
  have length : (front ++ word (utf8 s).length).length = start + 32 := by
    rw [List.length_append, length_word, behind]
  refine readText?_eq_some_iff.2 ⟨readWord?_mono (readWord?_word front behind fits)
    (List.prefix_append _ _), slice?_eq_some_iff.2 ⟨?_, ?_⟩⟩
  · exact Nat.le_of_eq (by rw [List.length_append, length])
  · rw [← length, List.drop_left, List.take_length]

/-- The three words of the head. -/
def head (m : TokenMetadata) : Bytes :=
  word 96 ++ word (96 + (tail (utf8 m.name)).length) ++ word m.decimals.toNat

/-- The packed form up to the end of the symbol. -/
def unpadded (m : TokenMetadata) : Bytes :=
  m.head ++ tail (utf8 m.name) ++ word (utf8 m.symbol).length ++ utf8 m.symbol

theorem length_head (m : TokenMetadata) : m.head.length = 96 := by
  simp only [head, List.length_append, length_word]

theorem length_unpadded (m : TokenMetadata) :
    m.unpadded.length = 160 + padded (utf8 m.name).length + (utf8 m.symbol).length := by
  simp only [unpadded, List.length_append, length_head, length_word, length_tail]
  omega

theorem head_prefix_unpadded (m : TokenMetadata) : m.head <+: m.unpadded :=
  ⟨tail (utf8 m.name) ++ word (utf8 m.symbol).length ++ utf8 m.symbol,
    by simp only [unpadded, List.append_assoc]⟩

theorem unpadded_prefix_encode (m : TokenMetadata) : m.unpadded <+: m.encode :=
  ⟨List.replicate (padded (utf8 m.symbol).length - (utf8 m.symbol).length) 0,
    by simp only [unpadded, head, encode, tail, List.append_assoc]⟩

theorem readWord?_symbolStart (fits : m.encode.length < 2 ^ 64) :
    readWord? m.head 32 = some (128 + padded (utf8 m.name).length) := by
  have reach := (unpadded_prefix_encode m).length_le
  rw [length_unpadded] at reach
  have start : 96 + (tail (utf8 m.name)).length = 128 + padded (utf8 m.name).length := by
    rw [length_tail]
    omega
  rw [head, start]
  exact readWord?_mono (readWord?_word (word 96) (length_word 96) (by omega))
    (List.prefix_append _ _)

/-- The padding of the symbol is not needed. -/
theorem decode?_unpadded (fits : m.encode.length < 2 ^ 64) : decode? m.unpadded = some m := by
  have reach := (unpadded_prefix_encode m).length_le
  rw [length_unpadded] at reach
  have room := le_padded (utf8 m.name).length
  have decimals : readWord? m.head 64 = some m.decimals.toNat :=
    readWord?_word _ (by simp only [List.length_append, length_word])
      (Nat.lt_trans m.decimals.toNat_lt (by decide))
  have nameStart : readWord? m.head 0 = some 96 :=
    readWord?_mono (readWord?_word [] rfl (by decide))
      ((List.prefix_append _ _).trans (List.prefix_append _ _))
  have name : readText? m.unpadded 96 = some m.name := by
    refine readText?_mono (readText?_word_utf8 m.head (length_head m) (by omega)) ?_
    simp only [unpadded, tail, List.append_assoc, List.prefix_append_right_inj]
    exact List.prefix_append _ _
  have symbol : readText? m.unpadded (128 + padded (utf8 m.name).length) = some m.symbol := by
    refine readText?_word_utf8 _ ?_ (by omega)
    rw [List.length_append, length_head, length_tail]
    omega
  exact decode?_eq_some_iff.2 ⟨readWord?_mono decimals (head_prefix_unpadded m),
    ⟨96, readWord?_mono nameStart (head_prefix_unpadded m), name⟩,
    _, readWord?_mono (readWord?_symbolStart fits) (head_prefix_unpadded m), symbol⟩

theorem decode?_encode (fits : m.encode.length < 2 ^ 64) : decode? m.encode = some m :=
  decode?_mono (decode?_unpadded fits) (unpadded_prefix_encode m)

/-- What a prefix of the packed form reads as, it reads up to the end of the symbol. -/
theorem decode?_of_prefix_encode {m' : TokenMetadata} (fits : m.encode.length < 2 ^ 64)
    (cut : data <+: m.encode) (h : decode? data = some m') :
    m' = m ∧ 160 + padded (utf8 m.name).length + (utf8 m.symbol).length ≤ data.length := by
  obtain rfl : m' = m :=
    Option.some.inj ((decode?_mono h cut).symm.trans (decode?_encode fits))
  obtain ⟨-, -, symbolStart, hsymbol, symbol⟩ := decode?_eq_some_iff.1 h
  obtain rfl : symbolStart = 128 + padded (utf8 m'.name).length :=
    Option.some.inj ((readWord?_mono hsymbol cut).symm.trans
      (readWord?_mono (readWord?_symbolStart fits)
        ((head_prefix_unpadded m').trans (unpadded_prefix_encode m'))))
  have inside := (slice?_eq_some_iff.1 (readText?_eq_some_iff.1 symbol).2).1
  exact ⟨rfl, by omega⟩

/-- **The packed form, cut and extended.** Metadata whose packed form has a length of 64 bits, as
    any that fits in memory has, reads back from it, whatever bytes follow. Cut to its first `n`
    bytes, it reads back just if the end of the symbol is among them, and never reads as other
    metadata; and no other metadata has the same packed form. -/
theorem encode_cut_or_extended (m : TokenMetadata) (fits : m.encode.length < 2 ^ 64) :
    (∀ more, decode? (m.encode ++ more) = some m) ∧
    (∀ n, decode? (m.encode.take n) =
      if 160 + padded (utf8 m.name).length + (utf8 m.symbol).length ≤ n then some m else none) ∧
    (∀ n m', decode? (m.encode.take n) = some m' → m' = m) ∧
    ∀ m' : TokenMetadata, m'.encode = m.encode → m' = m := by
  refine ⟨fun more => decode?_mono (decode?_encode fits) (List.prefix_append _ _), fun n => ?_,
    fun n m' h => (decode?_of_prefix_encode fits (List.take_prefix _ _) h).1, fun m' same => ?_⟩
  · split
    · rename_i whole
      rw [← length_unpadded] at whole
      exact decode?_mono (decode?_unpadded fits)
        (List.prefix_take_iff.2 ⟨unpadded_prefix_encode m, whole⟩)
    · rename_i short
      refine Option.eq_none_iff_forall_ne_some.2 fun m' h => short ?_
      have reach := (decode?_of_prefix_encode fits (List.take_prefix n _) h).2
      rw [List.length_take] at reach
      omega
  · have back : decode? m'.encode = some m' := decode?_encode (by rw [same]; exact fits)
    rw [same] at back
    exact Option.some.inj (back.symm.trans (decode?_encode fits))

/-- Wrapped ether: 224 bytes, of which the first 196 are enough. -/
theorem encode_cut_or_extended_weth :
    let m : TokenMetadata := ⟨"Wrapped Ether", "WETH", 18⟩
    m.encode.length < 2 ^ 64 ∧
      ∀ n, decode? (m.encode.take n) = if 196 ≤ n then some m else none := by
  have short : (⟨"Wrapped Ether", "WETH", 18⟩ : TokenMetadata).encode.length < 2 ^ 64 := by
    decide +kernel
  have reach : 160 + padded (utf8 "Wrapped Ether").length + (utf8 "WETH").length = 196 := by
    decide +kernel
  refine ⟨short, fun n => ?_⟩
  rw [← reach]
  exact (encode_cut_or_extended _ short).2.1 n

end TokenMetadata

end ExitBridge
