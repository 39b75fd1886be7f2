import Console7800.Proofs.Database.Append
import Console7800.Proofs.Database.Keys

/-!
# Records are read back

The text of one record, written in any way that its values can be written in: any numeral for a
number, `true` and `false` in any letter case or as 1 and 0, the keyed lines in any order, and every
line ended by a line feed with or without a carriage return. It is read as the entry that was
written (`parse_record`).
-/

namespace Console7800.Database

/-! ## Writing a record -/

/-- The values of a record's lines. -/
structure Writing where
  title : List Char
  kind : List Char
  pokey : List Char
  first : List Char
  second : List Char
  region : List Char
  flags : List Char
  keyed : List (Key × List Char)

/-- The lines after the one with the digest. -/
def Writing.lines (writing : Writing) : List (List Char) :=
  valueLine "title" writing.title :: valueLine "type" writing.kind ::
    valueLine "pokey" writing.pokey :: valueLine "controller1" writing.first ::
    valueLine "controller2" writing.second :: valueLine "region" writing.region ::
    valueLine "flags" writing.flags :: writing.keyed.map fun field => valueLine field.1.name field.2

/-- The record has an entry's values, and one line for each key that the entry has. -/
structure Writing.Of (writing : Writing) (entry : Entry) : Prop where
  title : writing.title = entry.title.toList
  plain : Plain writing.title
  kind : Text.Numeral entry.mapper.code writing.kind
  pokey : WritesFlag entry.pokey writing.pokey
  first : Text.Numeral entry.controllers.1.toNat writing.first
  second : Text.Numeral entry.controllers.2.toNat writing.second
  region : Text.Numeral entry.region.toByte.toNat writing.region
  flags : Text.Numeral entry.flags.toNat writing.flags
  keyed : ∀ field ∈ writing.keyed, entry.Shows field.1 field.2
  once : (writing.keyed.map Prod.fst).Nodup
  complete : ∀ key : Key, key.value? entry ≠ none → key ∈ writing.keyed.map Prod.fst

theorem Entry.exists_keyed {entry : Entry}
    (hrange : ∀ (key : Key) (value : key.Value), key.value? entry = some value → key.InRange value)
    {order : List Key} (h : ∀ key ∈ order, key.value? entry ≠ none) :
    ∃ keyed : List (Key × List Char), keyed.map Prod.fst = order ∧
      ∀ field ∈ keyed, entry.Shows field.1 field.2 := by
  induction order with
  | nil => exact ⟨[], rfl, fun _ hmem => nomatch hmem⟩
  | cons key order ih =>
    obtain ⟨hkey, horder⟩ := List.forall_mem_cons.1 h
    obtain ⟨value, hvalue⟩ := Option.ne_none_iff_exists'.1 hkey
    obtain ⟨text, hwrites⟩ := key.exists_writes value
    obtain ⟨keyed, hkeys, hshows⟩ := ih horder
    exact ⟨(key, text) :: keyed, congrArg (key :: ·) hkeys,
      List.forall_mem_cons.2 ⟨⟨value, hvalue, hrange key value hvalue, hwrites⟩, hshows⟩⟩

/-- An entry's values in their plainest form, in front of given keyed lines. -/
def Entry.writing (entry : Entry) (keyed : List (Key × List Char)) : Writing where
  title := entry.title.toList
  kind := Nat.toDigits 10 entry.mapper.code
  pokey := (if entry.pokey then "true" else "false").toList
  first := Nat.toDigits 10 entry.controllers.1.toNat
  second := Nat.toDigits 10 entry.controllers.2.toNat
  region := Nat.toDigits 10 entry.region.toByte.toNat
  flags := Nat.toDigits 10 entry.flags.toNat
  keyed := keyed

/-- Every entry whose title fits on a line and whose numbers have 32 bits can be written as a
record, with its keys in any order. -/
theorem Entry.exists_writing {entry : Entry} (htitle : Plain entry.title.toList)
    (hrange : ∀ (key : Key) (value : key.Value), key.value? entry = some value → key.InRange value)
    {order : List Key} (honce : order.Nodup)
    (horder : ∀ key : Key, key ∈ order ↔ key.value? entry ≠ none) :
    ∃ writing : Writing, writing.Of entry ∧ writing.keyed.map Prod.fst = order := by
  obtain ⟨keyed, hkeys, hshows⟩ := exists_keyed hrange fun key => (horder key).1
  refine ⟨entry.writing keyed, ?_, hkeys⟩
  exact {
    title := rfl
    plain := htitle
    kind := .plain (.toDigits _)
    pokey := writesFlag_word _
    first := .plain (.toDigits _)
    second := .plain (.toDigits _)
    region := .plain (.toDigits _)
    flags := .plain (.toDigits _)
    keyed := hshows
    once := hkeys ▸ honce
    complete := fun key hkey => hkeys ▸ (horder key).2 hkey }

theorem mapper?_of_numeral {mapper : Mapper} {text : List Char}
    (h : Text.Numeral mapper.code text) : mapper? text = some mapper := by
  have hcode : mapper.code < 256 := by cases mapper <;> decide
  have htoNat : (UInt8.ofNat mapper.code).toNat = mapper.code := by cases mapper <;> rfl
  rw [mapper?, byte?, h.unsigned? hcode, Option.map_some, Option.bind_some, htoNat,
    Mapper.ofCode?_code]

section

variable {writing : Writing} {entry : Entry} (h : writing.Of entry)

include h

theorem positional_writing (number : Nat) :
    positional number (valueLine "title" writing.title) (valueLine "type" writing.kind)
      (valueLine "pokey" writing.pokey) (valueLine "controller1" writing.first)
      (valueLine "controller2" writing.second) (valueLine "region" writing.region)
      (valueLine "flags" writing.flags) = .ok (entry.keep []) := by
  have hflags : number? writing.flags = some entry.flags.toNat :=
    h.flags.unsigned? entry.flags.toNat_lt
  unfold positional
  rw [valueOf_valueLine _ h.plain, valueOf_valueLine _ (plain_numeral h.kind),
    valueOf_valueLine _ (plain_flag h.pokey), valueOf_valueLine _ (plain_numeral h.first),
    valueOf_valueLine _ (plain_numeral h.second), valueOf_valueLine _ (plain_numeral h.region),
    valueOf_valueLine _ (plain_numeral h.flags)]
  simp only [need, mapper?_of_numeral h.kind, hflags, flag?_of_writes h.pokey,
    byte?_of_numeral h.first, byte?_of_numeral h.second, byte?_of_numeral h.region]
  rw [h.title, String.ofList_toList]
  change Except.ok _ = _
  rw [Region.ofByte_toByte, UInt32.ofNat_toNat]
  rfl

theorem parseRecord_writing (number : Nat) : parseRecord number writing.lines = .ok entry := by
  unfold Writing.lines parseRecord
  simp only [positional_writing h]
  change applyLines (number + 7) _ (entry.keep []) = _
  rw [applyLines_keyed h.keyed, List.append_nil, Entry.keep_eq_self]
  exact fun key hkey => List.mem_reverse.2 (h.complete key hkey)

end

/-- The line that starts a record. -/
def header (digest : List Char) : List Char := '[' :: digest ++ [']']

theorem recordDigest?_header {digest : List Char} (hlength : digest.length = 32)
    (hhex : digest.all isHexDigit) :
    recordDigest? (header digest) = some (Text.asciiLower digest) := by
  have htake : (digest ++ [']']).take 32 = digest := List.take_left' hlength
  simp only [header, recordDigest?, List.cons_append, htake, hlength, hhex, and_self, if_true]

theorem recordBody_eq_self {lines : List (List Char)} (hlength : lines.length ≤ recordLines)
    (hstart : ∀ line ∈ lines, line.head? ≠ some '[') : recordBody lines = lines := by
  rw [recordBody, List.take_of_length_le hlength, List.takeWhile_eq_self_iff]
  exact fun line hmem => bne_iff_ne.2 (hstart line hmem)

theorem dropReturns_eq_self {line : List Char} (h : line.getLast? ≠ some '\r') :
    dropReturns line = line := by
  rw [dropReturns, Text.dropEndWhile_eq, List.rdropWhile_eq_self_iff]
  intro hne hlast
  rw [List.getLast?_eq_some_getLast hne, eq_of_beq hlast] at h
  exact h rfl

theorem linesOf_ended {lines : List (List Char)} {text : String}
    (h : Text.Ended lines text.toList) (hwhole : ∀ line ∈ lines, Text.Whole line) :
    linesOf text = lines := by
  rw [linesOf, h.lines_eq hwhole]
  calc lines.map dropReturns
    _ = lines.map id :=
      List.map_congr_left fun line hmem => dropReturns_eq_self (hwhole line hmem).noReturn
    _ = lines := List.map_id lines

theorem whole_header {digest : List Char} (hhex : digest.all isHexDigit) :
    Text.Whole (header digest) where
  ne_nil := List.cons_ne_nil _ _
  noFeed := by
    have hfeed : '\n' ∉ digest := fun hmem =>
      absurd (List.all_eq_true.1 hhex _ hmem) (by decide)
    simp [header, hfeed]
  noReturn := by
    rw [header, List.getLast?_concat]
    decide

/-- The names of all lines. -/
def names : List String := positionalKeys ++ Key.all.map Key.name

section

variable {name : String} (hname : name ∈ names) {text : List Char}

include hname

theorem head?_valueLine : (valueLine name text).head? ≠ some '[' := by
  have hall : ∀ name ∈ names, name.toList.head? ≠ none ∧ name.toList.head? ≠ some '[' := by
    decide
  obtain ⟨hsome, hbracket⟩ := hall name hname
  obtain ⟨c, hc⟩ := Option.ne_none_iff_exists'.1 hsome
  rw [hc] at hbracket
  rwa [valueLine, List.head?_append, hc]

theorem whole_valueLine (h : Plain text) : Text.Whole (valueLine name text) where
  ne_nil := List.append_ne_nil_of_right_ne_nil _ (List.cons_ne_nil _ _)
  noFeed := by
    have hall : ∀ name ∈ names, '\n' ∉ name.toList := by
      decide
    simp [valueLine, hall name hname, h.noFeed]
  noReturn := by
    intro hreturn
    rw [valueLine, List.getLast?_append, List.getLast?_cons, Option.some_or,
      Option.some_inj] at hreturn
    by_cases hne : text = []
    · subst hne
      exact absurd hreturn (by decide)
    · rw [List.getLast?_eq_some_getLast hne, Option.getD_some] at hreturn
      have hblank := Text.isBlank_getLast h.trimmed hne
      rw [hreturn] at hblank
      exact absurd hblank (by decide)

end

namespace Writing.Of

variable {writing : Writing} {entry : Entry} (h : writing.Of entry)

include h

theorem exists_valueLine :
    ∀ line ∈ writing.lines, ∃ name ∈ names, ∃ text, Plain text ∧ line = valueLine name text := by
  intro line hmem
  simp only [Writing.lines, List.mem_cons] at hmem
  rcases hmem with rfl | rfl | rfl | rfl | rfl | rfl | rfl | hmem
  · exact ⟨_, by decide, _, h.plain, rfl⟩
  · exact ⟨_, by decide, _, plain_numeral h.kind, rfl⟩
  · exact ⟨_, by decide, _, plain_flag h.pokey, rfl⟩
  · exact ⟨_, by decide, _, plain_numeral h.first, rfl⟩
  · exact ⟨_, by decide, _, plain_numeral h.second, rfl⟩
  · exact ⟨_, by decide, _, plain_numeral h.region, rfl⟩
  · exact ⟨_, by decide, _, plain_numeral h.flags, rfl⟩
  · obtain ⟨field, hfield, rfl⟩ := List.mem_map.1 hmem
    obtain ⟨value, -, -, hwrites⟩ := h.keyed field hfield
    exact ⟨_, List.mem_append_right _ (List.mem_map_of_mem field.1.mem_all), _,
      plain_of_isValueChar (Key.isValueChar_writes hwrites), rfl⟩

theorem recordBody_lines : recordBody writing.lines = writing.lines := by
  have hkeys : (writing.keyed.map Prod.fst).length ≤ Key.all.length :=
    h.once.length_le_of_subset fun key _ => key.mem_all
  apply recordBody_eq_self
  · simp only [Writing.lines, List.length_cons, List.length_map] at hkeys ⊢
    exact Nat.add_le_add_right hkeys 7
  · intro line hmem
    obtain ⟨name, hname, text, -, rfl⟩ := h.exists_valueLine line hmem
    exact head?_valueLine hname

end Writing.Of

/-- The record is read as the entry that was written, and it is found under its digest in any
letter case and under nothing else. -/
theorem parse_record {digest : List Char} (hlength : digest.length = 32)
    (hhex : digest.all isHexDigit) {writing : Writing} {entry : Entry} (h : writing.Of entry)
    {text : String} (htext : Text.Ended (header digest :: writing.lines) text.toList) :
    ∃ database, parse text = .ok database ∧ ∀ name, database.lookup? name =
      if Text.asciiLower name.toList = Text.asciiLower digest then some entry else none := by
  have hlines : linesOf text = header digest :: writing.lines := by
    refine linesOf_ended htext (List.forall_mem_cons.2 ⟨whole_header hhex, fun line hmem => ?_⟩)
    obtain ⟨name, hname, text, hplain, rfl⟩ := h.exists_valueLine line hmem
    exact whole_valueLine hname hplain
  have hparse : parseLines 1 (linesOf text) [] = .ok [(Text.asciiLower digest, entry)] := by
    rw [hlines, parseLines_record (recordDigest?_header hlength hhex), h.recordBody_lines,
      parseRecord_writing h, List.drop_length]
    change parseLines _ [] _ = _
    rw [parseLines]
  refine ⟨⟨[(Text.asciiLower digest, entry)]⟩, ?_, fun name => ?_⟩
  · rw [parse_eq, hparse]
    rfl
  · by_cases hname : Text.asciiLower name.toList = Text.asciiLower digest
    · rw [if_pos hname, lookup?, List.lookup_cons, beq_iff_eq.2 hname]
    · rw [if_neg hname, lookup?, List.lookup_cons, beq_eq_false_iff_ne.2 hname]
      rfl

/-! ## A record -/

def foodFightDigest : String := "0123456789abcdef0123456789abcdef"

/-- A record with two kinds of line ends and five of the keys. -/
def foodFightText : String :=
  "[0123456789abcdef0123456789abcdef]\r\ntitle=Food Fight\r\ntype=1\r\npokey=true\r\n" ++
    "controller1=2\r\ncontroller2=1\r\nregion=1\r\nflags=3\r\n" ++
    "crossx=-4\nhblank=32\npokey450=1\nswapbuttons=true\nleftswitch=0\n"

def foodFight : Entry where
  title := "Food Fight"
  mapper := .supercart
  pokey := true
  controllers := (2, 1)
  region := .pal
  flags := 3
  crosshairX? := some (-4)
  hblank? := some 32
  pokey450? := some true
  leftSwitch? := some 0
  swapButtons? := some true

def foodFightWriting : Writing where
  title := "Food Fight".toList
  kind := ['1']
  pokey := ['t', 'r', 'u', 'e']
  first := ['2']
  second := ['1']
  region := ['1']
  flags := ['3']
  keyed := [(.crosshairX, ['-', '4']), (.hblank, ['3', '2']), (.pokey450, ['1']),
    (.swapButtons, ['t', 'r', 'u', 'e']), (.leftSwitch, ['0'])]

theorem shows_foodFightWriting :
    ∀ field ∈ foodFightWriting.keyed, foodFight.Shows field.1 field.2 := by
  have hoffset : (-0x80000000 : Int) ≤ -4 ∧ (-4 : Int) < 0x80000000 := by decide
  have hnumber : 32 < 0x100000000 := by decide
  have hcrossx : foodFight.Shows .crosshairX ['-', '4'] :=
    ⟨_, rfl, hoffset, .minus (n := 4) ⟨by decide, by decide, by decide⟩⟩
  have hhblank : foodFight.Shows .hblank ['3', '2'] :=
    ⟨_, rfl, hnumber, .plain ⟨by decide, by decide, by decide⟩⟩
  have hpokey : foodFight.Shows .pokey450 ['1'] := ⟨_, rfl, trivial, .inr rfl⟩
  have hswap : foodFight.Shows .swapButtons ['t', 'r', 'u', 'e'] :=
    ⟨_, rfl, trivial, .inl (by decide)⟩
  have hleft : foodFight.Shows .leftSwitch ['0'] :=
    ⟨_, rfl, trivial, .plain ⟨by decide, by decide, by decide⟩⟩
  exact List.forall_mem_cons.2 ⟨hcrossx, List.forall_mem_cons.2 ⟨hhblank,
    List.forall_mem_cons.2 ⟨hpokey, List.forall_mem_cons.2 ⟨hswap,
      List.forall_mem_singleton.2 hleft⟩⟩⟩⟩

theorem foodFightWriting_of : foodFightWriting.Of foodFight where
  title := rfl
  plain := ⟨by decide, by decide, by decide +kernel⟩
  kind := .plain ⟨by decide, by decide, by decide⟩
  pokey := .inl (by decide)
  first := .plain ⟨by decide, by decide, by decide⟩
  second := .plain ⟨by decide, by decide, by decide⟩
  region := .plain ⟨by decide, by decide, by decide⟩
  flags := .plain ⟨by decide, by decide, by decide⟩
  keyed := shows_foodFightWriting
  once := by decide
  complete key := by cases key <;> decide

theorem ended_foodFightText :
    Text.Ended (header foodFightDigest.toList :: foodFightWriting.lines) foodFightText.toList := by
  obtain ⟨text, htext, hended⟩ : ∃ text, foodFightText.toList = text ∧
      Text.Ended (header foodFightDigest.toList :: foodFightWriting.lines) text :=
    ⟨_, by decide +kernel, .returnFeed _ (.returnFeed _ (.returnFeed _ (.returnFeed _ (.returnFeed _
      (.returnFeed _ (.returnFeed _ (.returnFeed _ (.feed _ (.feed _ (.feed _ (.feed _
        (.feed _ .none))))))))))))⟩
  rw [htext]
  exact hended

/-- The record above is found under its digest in upper case. -/
theorem parse_record_foodFight :
    foodFightDigest.toList.length = 32 ∧ foodFightDigest.toList.all isHexDigit ∧
      foodFightWriting.Of foodFight ∧
      Text.Ended (header foodFightDigest.toList :: foodFightWriting.lines) foodFightText.toList ∧
      ∃ database, parse foodFightText = .ok database ∧
        database.lookup? "0123456789ABCDEF0123456789ABCDEF" = some foodFight := by
  have hlength : foodFightDigest.toList.length = 32 := by decide
  have hhex : foodFightDigest.toList.all isHexDigit := by decide
  refine ⟨hlength, hhex, foodFightWriting_of, ended_foodFightText, ?_⟩
  obtain ⟨database, hparse, hlookup⟩ :=
    parse_record hlength hhex foodFightWriting_of ended_foodFightText
  refine ⟨database, hparse, ?_⟩
  rw [hlookup, if_pos (by decide)]

end Console7800.Database
