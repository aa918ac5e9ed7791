/-
  Lists of peers, read and written.

  A list of peers is read up to blanks: around its entries, around the index and the URL of an
  entry, and as entries of their own. What is read is nearly in normal form. The slashes at the end
  of a URL are dropped once the blanks are, and blanks that stood in front of those slashes stay.

  * `RollupPeer.Tidy`, `RollupPeer.Normal`: what holds of every URL that is read, and what holds of
    those in normal form; `RollupPeer.normal_iff`: these are what trimming leaves as it is.
  * `RollupPeer.parse_of_spelled`: how an entry is read, however it is spelled.
  * `RollupPeer.tidy_of_parseList`: what is read is tidy; it is in normal form unless the text had
    more slashes.
  * `RollupPeer.parseList_of_spellings`: peers in normal form are read from any spelling of them.
  * `RollupPeer.parseList_listText`: the lists that are read back from their own text are those in
    normal form.
  * `RollupPeer.peer_lists_read_back`: all of it.
-/
import ExitBridge.Proofs.Result
import ExitBridge.Proofs.Text.Parts
import ExitBridge.Settings.Peers

namespace ExitBridge

open Text

namespace RollupPeer

/-! ## Normal form -/

/-- A URL that can stand in an entry, and neither starts with a blank nor ends in a slash. -/
structure Tidy (url : List Char) : Prop where
  nonempty : url ≠ []
  comma : ',' ∉ url
  leading : ∀ c ∈ url.head?, isBlank c = false
  slash : ∀ c ∈ url.getLast?, (c == '/') = false

/-- A tidy URL that does not end in a blank either. -/
structure Normal (url : List Char) : Prop extends Tidy url where
  trailing : ∀ c ∈ url.getLast?, isBlank c = false

variable {url : List Char} {p : RollupPeer} {peers : List RollupPeer}

theorem Normal.trimUrl (normal : Normal url) : trimUrl url = url := by
  rw [ExitBridge.trimUrl, trim_of_ends normal.leading normal.trailing, dropEnd_of_last normal.slash]

theorem last_of_trimUrl (h : trimUrl url = url) : ∀ c ∈ url.getLast?, isBlank c = false := by
  have shorter := (isPrefix_dropEnd (· == '/') (trim url)).length_le
  rw [← trimUrl, h] at shorter
  have whole : trim url = url := (isInfix_trim url).eq_of_length_le shorter
  rw [← whole]
  exact last_trim

theorem head_trimUrl (url : List Char) :
    ∀ c ∈ (ExitBridge.trimUrl url).head?, isBlank c = false := by
  intro c first
  obtain ⟨slashes, whole⟩ : ExitBridge.trimUrl url <+: trim url := isPrefix_dropEnd _ _
  refine @head_trim url c ?_
  rw [← whole, List.head?_append, first]
  rfl

/-- A URL is in normal form if nothing is trimmed off it. -/
theorem normal_iff : Normal url ↔ url ≠ [] ∧ ',' ∉ url ∧ ExitBridge.trimUrl url = url := by
  constructor
  · exact fun normal => ⟨normal.nonempty, normal.comma, normal.trimUrl⟩
  · rintro ⟨nonempty, comma, same⟩
    have leading := head_trimUrl url
    have slash : ∀ c ∈ (ExitBridge.trimUrl url).getLast?, (c == '/') = false := last_dropEnd
    rw [same] at leading slash
    exact ⟨⟨nonempty, comma, leading, slash⟩, last_of_trimUrl same⟩

instance (url : List Char) : Decidable (Normal url) := decidable_of_iff _ normal_iff.symm

/-! ## Entries -/

/-- The index of a peer in digits. -/
def digits (index : UInt32) : List Char := Nat.toDigits 10 index.toNat

/-- An entry: an index, blanks around it, and what stands behind the equality sign. -/
inductive Spelled (index : UInt32) (rest : List Char) : List Char → Prop
  | mk {before behind : List Char} : Blank before → Blank behind →
      Spelled index rest (before ++ (digits index ++ (behind ++ '=' :: rest)))

theorem isDigit_digits {index : UInt32} : ∀ d ∈ digits index, d.isDigit = true :=
  isDigit_of_mem_toDigits

theorem head_digits {index : UInt32} : ∀ c ∈ (digits index).head?, isBlank c = false :=
  fun _ first => isBlank_of_isDigit (isDigit_digits _ (List.mem_of_mem_head? first))

theorem last_digits {index : UInt32} : ∀ c ∈ (digits index).getLast?, isBlank c = false :=
  fun _ last => isBlank_of_isDigit (isDigit_digits _ (List.mem_of_mem_getLast? last))

theorem trim_spelled {index : UInt32} {before behind rest : List Char} (blank : Blank before) :
    trim (before ++ (digits index ++ (behind ++ '=' :: rest))) =
      digits index ++ behind ++ '=' :: dropEnd isBlank rest := by
  have start : (digits index ++ (behind ++ '=' :: rest)).dropWhile isBlank =
      digits index ++ (behind ++ '=' :: rest) := by
    cases text : digits index with
    | nil => exact absurd text Nat.toDigits_ne_nil
    | cons c cs =>
      have first := head_digits c (by rw [text]; rfl)
      exact List.dropWhile_cons_of_neg (by rw [first]; exact Bool.false_ne_true)
  rw [trim, List.dropWhile_append_of_pos blank, start, ← List.append_assoc,
    dropEnd_append_cons (by decide)]

/-- Blanks at the end of a URL do not count, even if the entry has lost them already. -/
theorem trimUrl_dropEnd (rest : List Char) : trimUrl (dropEnd isBlank rest) = trimUrl rest := by
  have blank : Blank (rest.rtakeWhile isBlank) := fun _ mem => List.mem_rtakeWhile_imp mem
  have padded : trim ([] ++ (rest.rdropWhile isBlank ++ rest.rtakeWhile isBlank)) =
      trim (rest.rdropWhile isBlank) := trim_pad Blank.nil blank
  rw [List.nil_append, List.rdropWhile_append_rtakeWhile] at padded
  rw [trimUrl, trimUrl, padded]
  rfl

theorem parse_of_spelled {index : UInt32} {rest part : List Char} (h : Spelled index rest part) :
    parse (trim part) = if trimUrl rest = [] then .error (.noUrl index)
      else .ok ⟨index, String.ofList (trimUrl rest)⟩ := by
  obtain @⟨before, behind, blank, blank'⟩ := h
  -- neither digits nor blanks are equality signs
  have absent : '=' ∉ digits index ++ behind := by
    rw [List.mem_append, not_or]
    exact ⟨fun mem => absurd (isDigit_digits _ mem) (by decide),
      fun mem => absurd (blank' _ mem) (by decide)⟩
  have number : readInteger? (2 ^ 32) (trim (digits index ++ behind)) = some index.toNat := by
    have padded : trim ([] ++ (digits index ++ behind)) = trim (digits index) :=
      trim_pad Blank.nil blank'
    rw [List.nil_append, trim_of_ends head_digits last_digits] at padded
    rw [padded]
    exact readInteger?_toDigits index.toNat_lt
  rw [trim_spelled blank, parse, splitOnce?_singleton _ absent]
  simp only [number, trimUrl_dropEnd, UInt32.ofNat_toNat, List.isEmpty_iff]

theorem exists_of_parse {entry : List Char} (h : parse entry = .ok p) : ∃ number rest,
    entry = number ++ '=' :: rest ∧ trimUrl rest ≠ [] ∧ p.url.toList = trimUrl rest := by
  unfold parse at h
  split at h
  · cases h
  · rename_i number rest halves
    have text := eq_of_splitOnce? halves
    rw [List.append_assoc] at text
    split at h
    · cases h
    · split at h
      · cases h
      · rename_i some
        obtain rfl := Except.ok.inj h
        exact ⟨number, rest, text, fun none => some (by rw [none]; rfl), String.toList_ofList⟩

theorem tidy_of_parse {entry : List Char} (comma : ',' ∉ entry) (h : parse entry = .ok p) :
    Tidy p.url.toList := by
  obtain ⟨number, rest, rfl, nonempty, text⟩ := exists_of_parse h
  rw [text]
  refine ⟨nonempty, fun mem => ?_, head_trimUrl rest, last_dropEnd⟩
  have start : trimUrl rest <+: trim rest := isPrefix_dropEnd _ _
  have inRest := (isInfix_trim rest).subset (start.subset mem)
  exact comma (List.mem_append_right _ (List.mem_cons_of_mem _ inRest))

/-- A blank is left at the end of a URL only if a slash stood behind it. -/
theorem normal_or_slash_of_parse {entry : List Char} (comma : ',' ∉ entry)
    (h : parse entry = .ok p) : Normal p.url.toList ∨ p.url.toList ++ ['/'] <:+: entry := by
  have tidy := tidy_of_parse comma h
  obtain ⟨number, rest, rfl, -, text⟩ := exists_of_parse h
  have whole : trimUrl rest ++ (trim rest).rtakeWhile (· == '/') = trim rest :=
    List.rdropWhile_append_rtakeWhile
  rw [text] at tidy ⊢
  cases slashes : (trim rest).rtakeWhile (· == '/') with
  | nil =>
    rw [slashes, List.append_nil] at whole
    exact .inl ⟨tidy, whole ▸ last_trim⟩
  | cons c more =>
    have isSlash : c = '/' := by
      have mem : c ∈ (trim rest).rtakeWhile (· == '/') := slashes ▸ List.mem_cons_self
      exact beq_iff_eq.1 (List.mem_rtakeWhile_imp (p := (· == '/')) mem)
    rw [slashes, isSlash, List.append_cons] at whole
    have inRest : trimUrl rest ++ ['/'] <:+: rest :=
      (whole ▸ (List.prefix_append _ more).isInfix).trans (isInfix_trim rest)
    exact .inr (inRest.trans ((List.suffix_cons _ _).trans (List.suffix_append _ _)).isInfix)

/-! ## Lists -/

/-- An entry for a peer, with blanks around its parts. -/
def Spells (p : RollupPeer) (part : List Char) : Prop :=
  ∃ before behind, Blank before ∧ Blank behind ∧
    Spelled p.rollupIndex (before ++ (p.url.toList ++ behind)) part

/-- Entries for peers, and blank entries between them. -/
inductive Spellings : List (List Char) → List RollupPeer → Prop
  | nil : Spellings [] []
  | blank {part parts peers} : Blank part → Spellings parts peers → Spellings (part :: parts) peers
  | peer {part parts p peers} : p.Spells part → Spellings parts peers →
      Spellings (part :: parts) (p :: peers)

variable {parts : List (List Char)}

theorem entries_join (free : ∀ part ∈ parts, ',' ∉ part) :
    entries (join ',' parts) = (parts.map trim).filter (!·.isEmpty) := by
  cases parts with
  | nil => rfl
  | cons part parts => rw [entries, splitAll_join (List.cons_ne_nil _ _) free]

theorem parseList_eq_ok {text : String} : parseList text = .ok peers ↔
    List.Forall₂ (fun entry p => parse entry = .ok p) (entries text.toList) peers :=
  except_mapM_eq_ok

theorem of_mem_entries {text entry : List Char} (h : entry ∈ entries text) :
    ',' ∉ entry ∧ entry <:+: text := by
  obtain ⟨part, mem, rfl⟩ := List.mem_map.1 (List.mem_filter.1 h).1
  refine ⟨fun comma => ?_, ?_⟩
  · exact not_mem_of_mem_splitAll mem ((isInfix_trim part).subset comma)
  · have inText : part <:+: join ',' (splitAll ',' text) := infix_join mem
    rw [join_splitAll] at inText
    exact (isInfix_trim part).trans inText

/-- What is read is tidy, and in normal form unless a slash stood behind a blank. -/
theorem tidy_of_parseList {text : String} (h : parseList text = .ok peers) : ∀ p ∈ peers,
    Tidy p.url.toList ∧ (Normal p.url.toList ∨ p.url.toList ++ ['/'] <:+: text.toList) := by
  intro p mem
  obtain ⟨lengths, each⟩ := List.forall₂_iff_get.1 (parseList_eq_ok.1 h)
  obtain ⟨i, inside, rfl⟩ := List.mem_iff_getElem.1 mem
  have read := each i (lengths ▸ inside) inside
  obtain ⟨comma, inText⟩ := of_mem_entries (List.getElem_mem (lengths ▸ inside))
  exact ⟨tidy_of_parse comma read,
    (normal_or_slash_of_parse comma read).imp_right fun slash => slash.trans inText⟩

theorem not_comma_of_blank {part : List Char} (blank : Blank part) : ',' ∉ part :=
  fun mem => absurd (blank _ mem) (by decide)

theorem Spelled.not_comma {index : UInt32} {rest part : List Char} (h : Spelled index rest part)
    (comma : ',' ∉ rest) : ',' ∉ part := by
  obtain ⟨blank, blank'⟩ := h
  have digit : ',' ∉ digits index := fun mem => absurd (isDigit_digits _ mem) (by decide)
  have sign : ',' ≠ '=' := by decide
  simp only [List.mem_append, List.mem_cons, not_or]
  exact ⟨not_comma_of_blank blank, digit, not_comma_of_blank blank', sign, comma⟩

theorem Spelled.trim_ne_nil {index : UInt32} {rest part : List Char} (h : Spelled index rest part) :
    trim part ≠ [] := by
  obtain ⟨blank, -⟩ := h
  rw [trim_spelled blank]
  simp

theorem parse_of_spells {part : List Char} (h : p.Spells part) (normal : Normal p.url.toList) :
    parse (trim part) = .ok p := by
  obtain ⟨before, behind, blank, blank', spelled⟩ := h
  have url : trimUrl (before ++ (p.url.toList ++ behind)) = p.url.toList := by
    rw [ExitBridge.trimUrl, trim_pad blank blank', ← ExitBridge.trimUrl, normal.trimUrl]
  rw [parse_of_spelled spelled, url, if_neg normal.nonempty, String.ofList_toList]

theorem Spells.not_comma {part : List Char} (h : p.Spells part) (normal : Normal p.url.toList) :
    ',' ∉ part := by
  obtain ⟨before, behind, blank, blank', spelled⟩ := h
  refine spelled.not_comma ?_
  simp only [List.mem_append, not_or]
  exact ⟨not_comma_of_blank blank, normal.comma, not_comma_of_blank blank'⟩

theorem Spells.trim_ne_nil {part : List Char} (h : p.Spells part) : trim part ≠ [] := by
  obtain ⟨_, _, _, _, spelled⟩ := h
  exact spelled.trim_ne_nil

theorem Spellings.not_comma (h : Spellings parts peers)
    (normal : ∀ p ∈ peers, Normal p.url.toList) : ∀ part ∈ parts, ',' ∉ part := by
  induction h with
  | nil => exact nofun
  | blank blank _ ih => exact List.forall_mem_cons.2 ⟨not_comma_of_blank blank, ih normal⟩
  | peer spells _ ih =>
    rw [List.forall_mem_cons] at normal
    exact List.forall_mem_cons.2 ⟨spells.not_comma normal.1, ih normal.2⟩

/-- Peers in normal form are read from any spelling of them. -/
theorem parseList_of_spellings (h : Spellings parts peers)
    (normal : ∀ p ∈ peers, Normal p.url.toList) :
    parseList (String.ofList (join ',' parts)) = .ok peers := by
  rw [parseList_eq_ok, String.toList_ofList, entries_join (h.not_comma normal)]
  induction h with
  | nil => exact .nil
  | blank blank _ ih =>
    rw [List.map_cons, trim_of_blank blank]
    exact ih normal
  | peer spells _ ih =>
    rw [List.forall_mem_cons] at normal
    rw [List.map_cons, List.filter_cons_of_pos (by simp [spells.trim_ne_nil])]
    exact .cons (parse_of_spells spells normal.1) (ih normal.2)

/-! ## Written lists -/

/-- The entry that is written for a peer. -/
def written (p : RollupPeer) : List Char := digits p.rollupIndex ++ '=' :: p.url.toList

theorem toList_listText : (listText peers).toList = join ',' (peers.map written) := by
  rw [listText, String.toList_intercalate, List.map_map, join]
  refine congrArg _ (List.map_congr_left fun p _ => ?_)
  simp [written, digits, toString]

theorem spelled_written : Spelled p.rollupIndex p.url.toList (written p) :=
  .mk Blank.nil Blank.nil

theorem spellings_written : Spellings (peers.map written) peers := by
  induction peers with
  | nil => exact .nil
  | cons p peers ih =>
    refine .peer ⟨[], [], Blank.nil, Blank.nil, ?_⟩ ih
    rw [List.nil_append, List.append_nil]
    exact spelled_written

/-- The lists that are read back from their own text are those in normal form. -/
theorem parseList_listText :
    parseList (listText peers) = .ok peers ↔ ∀ p ∈ peers, Normal p.url.toList := by
  constructor
  · intro read p mem
    have tidy := fun q mem => (tidy_of_parseList read q mem).1
    have free : ∀ part ∈ peers.map written, ',' ∉ part := by
      rw [List.forall_mem_map]
      exact fun q mem => spelled_written.not_comma (tidy q mem).comma
    have all : ∀ entry ∈ (peers.map written).map trim, (!entry.isEmpty) = true := by
      rw [List.forall_mem_map, List.forall_mem_map]
      exact fun q _ => by simp [spelled_written.trim_ne_nil]
    -- each entry is read as the peer that it was written for
    rw [parseList_eq_ok, toList_listText, entries_join free, List.filter_eq_self.2 all,
      List.map_map, List.forall₂_map_left_iff, List.forall₂_same] at read
    have same := read p mem
    rw [Function.comp_apply, parse_of_spelled spelled_written] at same
    split at same
    · cases same
    · have url := congrArg (·.url.toList) (Except.ok.inj same)
      rw [String.toList_ofList] at url
      exact ⟨tidy p mem, last_of_trimUrl url⟩
  · intro normal
    rw [← String.ofList_toList (s := listText peers), toList_listText]
    exact parseList_of_spellings spellings_written normal

/-- **Lists of peers.** The URLs that are read are tidy, and in normal form but for a blank in
    front of slashes; a list in normal form is read from every spelling of it; and a list is read
    back from its own text just if it is in normal form. -/
theorem peer_lists_read_back (text : String) (parts : List (List Char)) (peers : List RollupPeer) :
    (parseList text = .ok peers → ∀ p ∈ peers,
      Tidy p.url.toList ∧ (Normal p.url.toList ∨ p.url.toList ++ ['/'] <:+: text.toList)) ∧
    (Spellings parts peers → (∀ p ∈ peers, Normal p.url.toList) →
      parseList (String.ofList (join ',' parts)) = .ok peers) ∧
    (parseList (listText peers) = .ok peers ↔ ∀ p ∈ peers, Normal p.url.toList) :=
  ⟨tidy_of_parseList, parseList_of_spellings, parseList_listText⟩

/-- Blanks stand around all parts of an entry, and behind a comma. -/
theorem peer_lists_read_back_spaced :
    parseList " 1 = http://a ,, " = .ok [⟨1, "http://a"⟩] ∧ Tidy "http://a".toList := by
  have normal : Normal "http://a".toList := by decide
  have spells : Spells ⟨1, "http://a"⟩ " 1 = http://a ".toList :=
    ⟨[' '], [' '], by decide, by decide,
      @Spelled.mk 1 " http://a ".toList [' '] [' '] (by decide) (by decide)⟩
  obtain ⟨tidy, reads, -⟩ := peer_lists_read_back " 1 = http://a ,, "
    [" 1 = http://a ".toList, [], [' ']] [⟨1, "http://a"⟩]
  have read := reads (.peer spells (.blank (by decide) (.blank (by decide) .nil)))
    (by simpa using normal)
  exact ⟨read, (tidy read ⟨1, "http://a"⟩ List.mem_cons_self).1⟩

/-- A blank in front of the last slash stays, and is lost when the list is read again. -/
theorem peer_lists_read_back_slash :
    parseList "1=http://a /" = .ok [⟨1, "http://a "⟩] ∧ ¬ Normal "http://a ".toList ∧
      parseList (listText [⟨1, "http://a "⟩]) = .ok [⟨1, "http://a"⟩] := by
  exact ⟨by decide, by decide, by decide⟩

end RollupPeer

end ExitBridge
