import Console7800.Proofs.Database.Records

/-!
# One more line in a record

A line that is added to a record is searched for every key, in its name and in its value alike.
Exactly if a key that stands in it cannot be read from its value, nothing of the text is read; and
the entry stays the same exactly if, for every key that stands in it, a later line has that key too
or the entry has that very value anyway (`parse_addedLine_iff`).
-/

namespace Console7800

/-! ## Returns and blanks -/

theorem Text.trim_append_blanks (text : List Char) {blanks : List Char}
    (h : ∀ c ∈ blanks, isBlank c = true) : trim (text ++ blanks) = trim text := by
  have hend (kept : List Char) : dropEndWhile isBlank (kept ++ blanks) =
      dropEndWhile isBlank kept := by
    unfold dropEndWhile
    rw [List.reverse_append, List.dropWhile_append_of_pos fun c hc => h c (List.mem_reverse.1 hc)]
  unfold trim
  rw [List.dropWhile_append]
  split
  · rename_i hnone
    rw [List.isEmpty_iff.1 hnone, ← List.nil_append (List.dropWhile isBlank blanks),
      List.dropWhile_eq_nil_iff.2 h, List.append_nil]
  · exact hend _

namespace Database

theorem exists_dropReturns (line : List Char) : ∃ returns : List Char,
    (∀ c ∈ returns, c = '\r') ∧ line = dropReturns line ++ returns := by
  refine ⟨line.rtakeWhile (· == '\r'), fun c hc => ?_, ?_⟩
  · exact eq_of_beq (List.mem_rtakeWhile_imp (p := (· == '\r')) hc)
  · rw [dropReturns, Text.dropEndWhile_eq]
    exact (List.rdropWhile_append_rtakeWhile ..).symm

theorem valueOf_dropReturns (line : List Char) : valueOf (dropReturns line) = valueOf line := by
  obtain ⟨returns, hreturns, hline⟩ := exists_dropReturns line
  have hpass : ∀ c ∈ returns.reverse, (c != '=') = true := fun c hc => by
    rw [hreturns c (List.mem_reverse.1 hc)]
    decide
  have hblank : ∀ c ∈ returns, Text.isBlank c = true := fun c hc => by
    rw [hreturns c hc]
    decide
  conv_rhs => rw [hline]
  unfold valueOf
  rw [List.reverse_append, List.takeWhile_append_of_pos hpass, List.reverse_append,
    List.reverse_reverse, Text.trim_append_blanks _ hblank]

/-- What follows the last equals sign of the value follows the last one of the line. -/
theorem valueOf_valueLine_eq (name : String) (text : List Char) :
    valueOf (valueLine name text) = valueOf text := by
  unfold valueOf valueLine
  rw [List.reverse_append, List.reverse_cons, List.append_assoc, List.takeWhile_append]
  split
  · rename_i hall
    have hwhole : text.reverse.takeWhile (· != '=') = text.reverse :=
      (List.takeWhile_prefix _).eq_of_length hall
    rw [hwhole]
    simp
  · rfl

/-! ## Keys in a line -/

namespace Key

/-- The key stands somewhere in the line. -/
def FoundIn (key : Key) (line : List Char) : Prop := occursIn key.name.toList line = true

instance (key : Key) (line : List Char) : Decidable (key.FoundIn line) :=
  inferInstanceAs (Decidable (_ = true))

theorem foundIn_valueLine {key : Key} {name : String} {text : List Char} :
    key.FoundIn (valueLine name text) ↔ key.FoundIn name.toList ∨ key.FoundIn text := by
  refine ⟨occursIn_valueLine key.noEquals_name, ?_⟩
  simp only [FoundIn, occursIn_iff, valueLine]
  rintro (hname | htext)
  · exact hname.trans (List.prefix_append ..).isInfix
  · exact htext.trans ((List.suffix_cons ..).trans (List.suffix_append ..)).isInfix

theorem foundIn_dropReturns {key : Key} {line : List Char} :
    key.FoundIn (dropReturns line) ↔ key.FoundIn line := by
  obtain ⟨returns, hreturns, hline⟩ := exists_dropReturns line
  have hreturn : '\r' ∉ key.name.toList := by
    cases key <;> decide
  have hnothing {part : List Char} (hkey : part ⊆ key.name.toList) (hpart : part ⊆ returns) :
      part = [] := by
    cases part with
    | nil => rfl
    | cons c part =>
      have hc := hreturns c (hpart List.mem_cons_self)
      exact absurd (hc ▸ hkey List.mem_cons_self) hreturn
  conv_rhs => rw [hline]
  simp only [FoundIn, occursIn_iff, List.infix_append_iff]
  refine ⟨.inl, ?_⟩
  rintro (hkept | hdropped | ⟨before, after, hname, hbefore, hafter⟩)
  · exact hkept
  · rw [hnothing (List.Subset.refl _) hdropped.subset]
    exact List.nil_infix
  · have hrest : after = [] :=
      hnothing (hname ▸ List.subset_append_right ..) hafter.subset
    rw [hname, hrest, List.append_nil]
    exact hbefore.isInfix

end Key

/-- Every key that stands in the line can be read from its value. -/
def Readable (line : List Char) : Prop :=
  ∀ key : Key, key.FoundIn line → ∃ value, key.read? (valueOf line) = some value

/-! ## What a line makes of an entry -/

namespace Entry

/-- Make the setting of a key, if the key stands in the line and can be read. -/
def takeKey (line : List Char) (entry : Entry) (key : Key) : Entry :=
  if key.FoundIn line then (key.read? (valueOf line)).elim entry (key.put entry) else entry

/-- Make all settings of a line. -/
def taking (entry : Entry) (line : List Char) : Entry := Key.all.foldl (takeKey line) entry

end Entry

theorem Key.value?_put (key : Key) (entry : Entry) (value : key.Value) (other : Key) :
    other.value? (key.put entry value) =
      if h : other = key then some (h ▸ value) else other.value? entry := by
  cases key <;> cases other <;> rfl

namespace Entry

theorem value?_takeKey (key : Key) (line : List Char) (entry : Entry) (other : Key) :
    key.value? (entry.takeKey line other) =
      if key = other ∧ key.FoundIn line then (key.read? (valueOf line)).or (key.value? entry)
      else key.value? entry := by
  unfold takeKey
  by_cases hkey : key = other
  · subst hkey
    by_cases hfound : key.FoundIn line
    · rw [if_pos hfound, if_pos ⟨rfl, hfound⟩]
      cases key.read? (valueOf line) with
      | none => rfl
      | some value => exact (key.value?_put entry value key).trans (dif_pos rfl)
    · rw [if_neg hfound, if_neg fun h => hfound h.2]
  · have hother : ¬ (key = other ∧ key.FoundIn line) := fun h => hkey h.1
    rw [if_neg hother]
    split
    · cases other.read? (valueOf line) with
      | none => rfl
      | some value => exact (other.value?_put entry value key).trans (dif_neg hkey)
    · rfl

/-- The keys of a line take its value, and the others are left as they are. -/
theorem value?_taking (key : Key) (entry : Entry) (line : List Char) :
    key.value? (entry.taking line) =
      if key.FoundIn line then (key.read? (valueOf line)).or (key.value? entry)
      else key.value? entry := by
  unfold taking Key.all
  cases key <;> simp [value?_takeKey]

theorem keep_taking (entry : Entry) (line : List Char) :
    (entry.taking line).keep [] = entry.keep [] := by
  have hkey (entry : Entry) (key : Key) : (entry.takeKey line key).keep [] = entry.keep [] := by
    unfold takeKey
    split
    · cases key.read? (valueOf line) with
      | none => rfl
      | some value => cases key <;> rfl
    · rfl
  simp only [taking, Key.all, List.foldl_cons, List.foldl_nil, hkey]

theorem ext_keys {entry other : Entry} (hfixed : entry.keep [] = other.keep [])
    (hkeys : ∀ key : Key, key.value? entry = key.value? other) : entry = other := by
  cases entry
  cases other
  simp only [keep, Entry.mk.injEq] at hfixed ⊢
  obtain ⟨htitle, hmapper, hpokey, hcontrollers, hregion, hflags, -⟩ := hfixed
  exact ⟨htitle, hmapper, hpokey, hcontrollers, hregion, hflags, hkeys .crosshairX,
    hkeys .crosshairY, hkeys .hblank, hkeys .dualAnalog, hkeys .pokey450, hkeys .expansion,
    hkeys .disableBios, hkeys .leftSwitch, hkeys .rightSwitch, hkeys .swapButtons⟩

end Entry

/-! ## Lines that are read -/

section

variable {α β ε : Type} {step : β → α → Except ε β}

theorem exists_step_of_foldlM {state after : β} {items : List α}
    (h : items.foldlM step state = .ok after) :
    ∀ item ∈ items, ∃ before next, step before item = .ok next := by
  induction items generalizing state with
  | nil => exact fun _ hmem => nomatch hmem
  | cons item items ih =>
    rw [List.foldlM_cons] at h
    cases hstep : step state item with
    | error error =>
      rw [hstep] at h
      cases h
    | ok next =>
      rw [hstep] at h
      exact List.forall_mem_cons.2 ⟨⟨state, next, hstep⟩, ih h⟩

theorem foldlM_eq_foldl {f : β → α → β} {items : List α}
    (h : ∀ item ∈ items, ∀ state, step state item = .ok (f state item)) (state : β) :
    items.foldlM step state = .ok (items.foldl f state) := by
  induction items generalizing state with
  | nil => rfl
  | cons item items ih =>
    obtain ⟨hitem, hitems⟩ := List.forall_mem_cons.1 h
    rw [List.foldlM_cons, hitem]
    exact ih hitems _

end

/-- Search a line for one key, and make its setting if it is found. -/
def applyKey (number : Nat) (line : List Char) (entry : Entry) (key : Key) : Except Error Entry :=
  if key.FoundIn line then
    need number key.name (fun text => (key.read? text).map (key.put entry)) (valueOf line)
  else .ok entry

theorem applyLine_eq (number : Nat) (line : List Char) (entry : Entry) :
    applyLine number line entry = Key.all.foldlM (applyKey number line) entry := by
  unfold applyLine
  rw [Key.settings_eq, List.foldlM_map]
  congr 1
  funext entry key
  simp only [Key.setting_key, Key.setting_assign]
  rfl

theorem applyKey_readable {number : Nat} {line : List Char} (h : Readable line) (entry : Entry)
    (key : Key) : applyKey number line entry key = .ok (entry.takeKey line key) := by
  unfold applyKey Entry.takeKey
  split
  · rename_i hfound
    obtain ⟨value, hvalue⟩ := h key hfound
    rw [need, hvalue]
    rfl
  · rfl

theorem applyLine_eq_ok_iff {number : Nat} {line : List Char} {entry after : Entry} :
    applyLine number line entry = .ok after ↔ Readable line ∧ after = entry.taking line := by
  rw [applyLine_eq]
  constructor
  · intro h
    have hreadable : Readable line := fun key hfound => by
      obtain ⟨before, next, hstep⟩ := exists_step_of_foldlM h key key.mem_all
      rw [applyKey, if_pos hfound, need] at hstep
      cases hread : key.read? (valueOf line) with
      | none =>
        rw [hread] at hstep
        cases hstep
      | some value => exact ⟨value, rfl⟩
    rw [foldlM_eq_foldl fun key _ entry => applyKey_readable hreadable entry key] at h
    exact ⟨hreadable, (Except.ok.inj h).symm⟩
  · rintro ⟨hreadable, rfl⟩
    exact foldlM_eq_foldl (fun key _ entry => applyKey_readable hreadable entry key) entry

theorem applyLines_eq_ok_iff {number : Nat} {lines : List (List Char)} {entry after : Entry} :
    applyLines number lines entry = .ok after ↔
      (∀ line ∈ lines, Readable line) ∧ after = lines.foldl Entry.taking entry := by
  induction lines generalizing number entry with
  | nil =>
    rw [applyLines, Except.ok.injEq, eq_comm]
    simp
  | cons line lines ih =>
    rw [applyLines, List.forall_mem_cons, List.foldl_cons]
    constructor
    · intro h
      cases hline : applyLine number line entry with
      | error error =>
        rw [hline] at h
        cases h
      | ok next =>
        rw [hline] at h
        obtain ⟨hreadable, rfl⟩ := applyLine_eq_ok_iff.1 hline
        obtain ⟨hlines, hafter⟩ := ih.1 h
        exact ⟨⟨hreadable, hlines⟩, hafter⟩
    · rintro ⟨⟨hreadable, hlines⟩, hafter⟩
      rw [applyLine_eq_ok_iff.2 ⟨hreadable, rfl⟩]
      exact ih.2 ⟨hlines, hafter⟩

/-! ## What later lines make of it -/

namespace Entry

theorem keep_foldl_taking (lines : List (List Char)) (entry : Entry) :
    (lines.foldl taking entry).keep [] = entry.keep [] := by
  induction lines generalizing entry with
  | nil => rfl
  | cons line lines ih => rw [List.foldl_cons, ih, keep_taking]

theorem value?_foldl_of_not_found {key : Key} {lines : List (List Char)}
    (h : ∀ line ∈ lines, ¬ key.FoundIn line) (entry : Entry) :
    key.value? (lines.foldl taking entry) = key.value? entry := by
  induction lines generalizing entry with
  | nil => rfl
  | cons line lines ih =>
    obtain ⟨hline, hlines⟩ := List.forall_mem_cons.1 h
    rw [List.foldl_cons, ih hlines, value?_taking, if_neg hline]

/-- After a line with a key, what was there for it before is no matter. -/
theorem value?_foldl_of_found {key : Key} {lines : List (List Char)}
    (hreadable : ∀ line ∈ lines, Readable line) (hfound : ∃ line ∈ lines, key.FoundIn line)
    (entry other : Entry) :
    key.value? (lines.foldl taking entry) = key.value? (lines.foldl taking other) := by
  induction lines generalizing entry other with
  | nil => exact absurd hfound (by simp)
  | cons line lines ih =>
    obtain ⟨hline, hlines⟩ := List.forall_mem_cons.1 hreadable
    rw [List.foldl_cons, List.foldl_cons]
    by_cases hlater : ∃ line ∈ lines, key.FoundIn line
    · exact ih hlines hlater _ _
    · have hnone : ∀ line ∈ lines, ¬ key.FoundIn line := by simpa using hlater
      have hself : key.FoundIn line := by
        obtain ⟨found, hmem, hkey⟩ := hfound
        rcases List.mem_cons.1 hmem with rfl | hmem
        · exact hkey
        · exact absurd hkey (hnone found hmem)
      obtain ⟨value, hvalue⟩ := hline key hself
      rw [value?_foldl_of_not_found hnone, value?_foldl_of_not_found hnone, value?_taking,
        value?_taking, if_pos hself, if_pos hself, hvalue]
      rfl

/-- A line in front of others changes nothing exactly if what it sets is set again or there
already. -/
theorem foldl_taking_eq_iff {line : List Char} (hline : Readable line) {lines : List (List Char)}
    (hlines : ∀ line ∈ lines, Readable line) (entry : Entry) :
    lines.foldl taking (entry.taking line) = lines.foldl taking entry ↔
      ∀ key : Key, key.FoundIn line →
        (∃ later ∈ lines, key.FoundIn later) ∨
          key.read? (valueOf line) = key.value? (lines.foldl taking entry) := by
  have hlast {key : Key} (hnone : ¬ ∃ later ∈ lines, key.FoundIn later) (before : Entry) :
      key.value? (lines.foldl taking before) = key.value? before :=
    value?_foldl_of_not_found (by simpa using hnone) before
  have htaken {key : Key} (hfound : key.FoundIn line) :
      key.value? (entry.taking line) = key.read? (valueOf line) := by
    obtain ⟨value, hvalue⟩ := hline key hfound
    rw [value?_taking, if_pos hfound, hvalue]
    rfl
  constructor
  · intro heq key hfound
    by_cases hlater : ∃ later ∈ lines, key.FoundIn later
    · exact .inl hlater
    · rw [← heq, hlast hlater, htaken hfound]
      exact .inr rfl
  · intro h
    refine ext_keys ?_ fun key => ?_
    · rw [keep_foldl_taking, keep_foldl_taking, keep_taking]
    by_cases hlater : ∃ later ∈ lines, key.FoundIn later
    · exact value?_foldl_of_found hlines hlater _ _
    by_cases hfound : key.FoundIn line
    · rw [hlast hlater, htaken hfound]
      exact (h key hfound).resolve_left hlater
    · rw [hlast hlater, hlast hlater, value?_taking, if_neg hfound]

end Entry

/-! ## One more line in a record -/

/-- A record is its seven lines with a fixed place, changed by each line after them. -/
theorem parseRecord_append {shown : List (List Char)} (h : 7 ≤ shown.length) (number : Nat)
    (more : List (List Char)) :
    parseRecord number (shown ++ more) =
      parseRecord number (shown.take 7) >>= applyLines (number + 7) (shown.drop 7 ++ more) := by
  match shown, h with
  | title :: kind :: pokey :: first :: second :: region :: flags :: keyed, _ =>
    have hfixed : parseRecord number [title, kind, pokey, first, second, region, flags] =
        positional number title kind pokey first second region flags >>=
          applyLines (number + 7) [] := rfl
    change positional number title kind pokey first second region flags >>=
        applyLines (number + 7) (keyed ++ more) =
      parseRecord number [title, kind, pokey, first, second, region, flags] >>=
        applyLines (number + 7) (keyed ++ more)
    rw [hfixed]
    cases positional number title kind pokey first second region flags <;> rfl

section

variable {number : Nat} {shown others : List (List Char)} {entry : Entry}

theorem parseRecord_eq_ok_iff (h : 7 ≤ shown.length) :
    parseRecord number (shown ++ others) = .ok entry ↔
      ∃ start, parseRecord number (shown.take 7) = .ok start ∧
        (∀ line ∈ shown.drop 7 ++ others, Readable line) ∧
        entry = (shown.drop 7 ++ others).foldl Entry.taking start := by
  rw [parseRecord_append h]
  cases parseRecord number (shown.take 7) with
  | error error => exact ⟨nofun, fun ⟨_, hstart, _⟩ => nomatch hstart⟩
  | ok start =>
    refine applyLines_eq_ok_iff.trans ⟨fun h => ⟨start, rfl, h⟩, ?_⟩
    rintro ⟨_, hstart, hentry⟩
    obtain rfl := Except.ok.inj hstart
    exact hentry

/-- A line can be added exactly if it can be read, and leaves the entry as it was exactly if what
it sets is set again or there already. -/
theorem parseRecord_addLine (hshown : 7 ≤ shown.length)
    (h : parseRecord number (shown ++ others) = .ok entry) (line : List Char) :
    ((∃ after, parseRecord number (shown ++ line :: others) = .ok after) ↔ Readable line) ∧
      (parseRecord number (shown ++ line :: others) = .ok entry ↔
        ∀ key : Key, key.FoundIn line → ∃ value, key.read? (valueOf line) = some value ∧
          ((∃ later ∈ others, key.FoundIn later) ∨ key.value? entry = some value)) := by
  obtain ⟨start, hstart, hreadable, hentry⟩ := (parseRecord_eq_ok_iff hshown).1 h
  obtain ⟨hdropped, hothers⟩ := List.forall_mem_append.1 hreadable
  have hadded (after : Entry) :
      parseRecord number (shown ++ line :: others) = .ok after ↔
        Readable line ∧ after = others.foldl Entry.taking
          (((shown.drop 7).foldl Entry.taking start).taking line) := by
    rw [parseRecord_eq_ok_iff hshown, List.forall_mem_append, List.forall_mem_cons, hstart]
    simp only [List.foldl_append, List.foldl_cons]
    constructor
    · rintro ⟨_, hstart', ⟨-, hline, -⟩, hafter⟩
      obtain rfl := Except.ok.inj hstart'
      exact ⟨hline, hafter⟩
    · rintro ⟨hline, hafter⟩
      exact ⟨start, rfl, ⟨hdropped, hline, hothers⟩, hafter⟩
  refine ⟨⟨fun ⟨after, hafter⟩ => ((hadded after).1 hafter).1, fun hline => ?_⟩, ?_⟩
  · exact ⟨_, (hadded _).2 ⟨hline, rfl⟩⟩
  rw [List.foldl_append] at hentry
  rw [hadded, eq_comm (a := entry), hentry]
  constructor
  · rintro ⟨hline, heq⟩ key hfound
    obtain ⟨value, hvalue⟩ := hline key hfound
    have hkept := (Entry.foldl_taking_eq_iff hline hothers _).1 heq key hfound
    rw [hvalue] at hkept
    exact ⟨value, hvalue, hkept.imp_right Eq.symm⟩
  · intro hall
    have hline : Readable line := fun key hfound =>
      have ⟨value, hvalue, _⟩ := hall key hfound
      ⟨value, hvalue⟩
    refine ⟨hline, (Entry.foldl_taking_eq_iff hline hothers _).2 fun key hfound => ?_⟩
    obtain ⟨value, hvalue, hkept⟩ := hall key hfound
    rw [hvalue]
    exact hkept.imp_right Eq.symm

end

/-! ## One more line in a text -/

/-- A place in a record of a text, behind the seven lines that every record has, where there is
room for one more line. -/
structure Place where
  /-- What stands before the record. -/
  front : List (List Char)
  header : List Char
  digest : List Char
  /-- The lines of the record before the place. -/
  shown : List (List Char)
  /-- The lines of the record behind the place. -/
  others : List (List Char)
  /-- What stands behind the record. -/
  rest : List (List Char)
  starts : recordDigest? header = some digest
  fixed : 7 ≤ shown.length
  room : (shown ++ others).length < 17
  inside : ∀ line ∈ shown ++ others, line.head? ≠ some '['
  ends : ∀ line ∈ rest.head?, line.head? = some '['

theorem head?_of_recordDigest? {line digest : List Char} (h : recordDigest? line = some digest) :
    line.head? = some '[' := by
  unfold recordDigest? at h
  split at h
  · rfl
  · cases h

theorem parseLines_eq_ok_iff {offset : Nat} {lines : List (List Char)}
    {older records : List (List Char × Entry)} :
    parseLines (1 + offset) lines older = .ok records ↔
      ∃ newer, parseLines 1 lines [] = .ok newer ∧ records = newer ++ older := by
  have hbehind : parseLines (1 + offset) lines older =
      ((parseLines 1 lines []).map (· ++ older)).mapError (.later offset) := by
    rw [parseLines_add, ← parseLines_older, List.nil_append]
  rw [hbehind]
  cases parseLines 1 lines [] with
  | error error => exact ⟨nofun, fun ⟨_, hnewer, _⟩ => nomatch hnewer⟩
  | ok newer =>
    refine ⟨fun h => ⟨newer, rfl, (Except.ok.inj h).symm⟩, ?_⟩
    rintro ⟨_, hnewer, rfl⟩
    obtain rfl := Except.ok.inj hnewer
    rfl

namespace Place

variable (place : Place)

/-- The lines of the text, with these lines for the record. -/
def linesWith (record : List (List Char)) : List (List Char) :=
  place.front ++ place.header :: (record ++ place.rest)

/-- The lines of the text. -/
def lines : List (List Char) := place.linesWith (place.shown ++ place.others)

/-- The lines of the text with one more at the place. -/
def linesAdding (line : List Char) : List (List Char) :=
  place.linesWith (place.shown ++ line :: place.others)

theorem parse_eq_ok_iff {record : List (List Char)} (hlength : record.length ≤ 17)
    (hinside : ∀ line ∈ record, line.head? ≠ some '[') {text : String}
    (htext : linesOf text = place.linesWith record) {database : Database} :
    parse text = .ok database ↔ ∃ older entry newer, parseLines 1 place.front [] = .ok older ∧
      parseRecord (place.front.length + 2) record = .ok entry ∧
      parseLines 1 place.rest [] = .ok newer ∧
      database = ⟨newer ++ (place.digest, entry) :: older⟩ := by
  have hstart : ∀ line ∈ (place.header :: (record ++ place.rest)).head?, line.head? = some '[' := by
    rintro line hmem
    obtain rfl := Option.some.inj hmem
    exact head?_of_recordDigest? place.starts
  have hrecord : recordBody (record ++ place.rest) = record := by
    rw [recordBody_append _ place.ends, recordBody_eq_self hlength hinside]
  have hparse : parse text = (parseLines 1 place.front [] >>= fun older =>
      parseRecord (place.front.length + 2) record >>= fun entry =>
        parseLines (1 + (place.front.length + 1 + record.length)) place.rest
          ((place.digest, entry) :: older)).map Database.mk := by
    rw [parse_eq, htext, linesWith, parseLines_append 1 _ hstart]
    change (parseLines 1 place.front [] >>= fun older => parseLines (1 + place.front.length)
      (place.header :: (record ++ place.rest)) older).map Database.mk = _
    simp only [parseLines_record place.starts, hrecord, List.drop_left, Nat.add_comm 1,
      Nat.add_right_comm _ record.length]
  rw [hparse]
  cases parseLines 1 place.front [] with
  | error error => exact ⟨nofun, fun ⟨_, _, _, holder, _⟩ => nomatch holder⟩
  | ok older =>
    cases hentry : parseRecord (place.front.length + 2) record with
    | error error => exact ⟨nofun, fun ⟨_, _, _, _, hentry, _⟩ => nomatch hentry⟩
    | ok entry =>
      change (parseLines (1 + (place.front.length + 1 + record.length)) place.rest
        ((place.digest, entry) :: older)).map Database.mk = .ok database ↔ _
      constructor
      · intro h
        cases hlast : parseLines (1 + (place.front.length + 1 + record.length)) place.rest
            ((place.digest, entry) :: older) with
        | error error =>
          rw [hlast] at h
          cases h
        | ok records =>
          rw [hlast] at h
          obtain ⟨newer, hnewer, rfl⟩ := parseLines_eq_ok_iff.1 hlast
          exact ⟨older, entry, newer, rfl, rfl, hnewer, (Except.ok.inj h).symm⟩
      · rintro ⟨_, _, newer, holder, hentry, hnewer, rfl⟩
        obtain rfl := Except.ok.inj holder
        obtain rfl := Except.ok.inj hentry
        rw [parseLines_eq_ok_iff.2 ⟨newer, hnewer, rfl⟩]
        rfl

end Place

/-- A line is added to a record of a text that is read. The text is read with it exactly if every
key that stands in its name or in its value can be read from the value. It is read as before exactly
if, for each of these keys, the entry has that value or a later line of the record has the key. -/
theorem parse_addedLine_iff (place : Place) {name : String} {value : List Char}
    (hbracket : (valueLine name value).head? ≠ some '[') {text longer : String}
    (htext : linesOf text = place.lines)
    (hlonger : linesOf longer = place.linesAdding (dropReturns (valueLine name value)))
    {database : Database} (hparse : parse text = .ok database) :
    let Found (key : Key) : Prop := key.FoundIn name.toList ∨ key.FoundIn value
    ∃ entry, (place.digest, entry) ∈ database.records ∧
      parseRecord (place.front.length + 2) (place.shown ++ place.others) = .ok entry ∧
      ((∃ after, parse longer = .ok after) ↔
        ∀ key : Key, Found key → ∃ setting, key.read? (valueOf value) = some setting) ∧
      (parse longer = .ok database ↔
        ∀ key : Key, Found key → ∃ setting, key.read? (valueOf value) = some setting ∧
          ((∃ later ∈ place.others, key.FoundIn later) ∨ key.value? entry = some setting)) := by
  intro Found
  let line := dropReturns (valueLine name value)
  have hfound (key : Key) : key.FoundIn line ↔ Found key :=
    Key.foundIn_dropReturns.trans Key.foundIn_valueLine
  have hvalue : valueOf line = valueOf value :=
    (valueOf_dropReturns _).trans (valueOf_valueLine_eq name value)
  have hlength : (place.shown ++ line :: place.others).length ≤ 17 := by
    have hroom := place.room
    simp only [List.length_append, List.length_cons] at hroom ⊢
    omega
  have hinside : ∀ other ∈ place.shown ++ line :: place.others, other.head? ≠ some '[' := by
    obtain ⟨hshown, hothers⟩ := List.forall_mem_append.1 place.inside
    refine List.forall_mem_append.2 ⟨hshown, List.forall_mem_cons.2 ⟨fun hline => ?_, hothers⟩⟩
    obtain ⟨returns, -, hkept⟩ := exists_dropReturns (valueLine name value)
    rw [hkept, List.head?_append, hline] at hbracket
    exact hbracket rfl
  obtain ⟨older, entry, newer, holder, hentry, hnewer, rfl⟩ :=
    (place.parse_eq_ok_iff (Nat.le_of_lt place.room) place.inside htext).1 hparse
  obtain ⟨hreads, hkeeps⟩ := parseRecord_addLine place.fixed hentry line
  have hlines (after : Database) : parse longer = .ok after ↔ _ :=
    place.parse_eq_ok_iff hlength hinside hlonger
  simp only [Readable, hfound, hvalue] at hreads hkeeps
  refine ⟨entry, List.mem_append_right _ List.mem_cons_self, hentry, ?_, ?_⟩
  · rw [← hreads]
    constructor
    · rintro ⟨after, hafter⟩
      obtain ⟨_, changed, _, -, hchanged, -⟩ := (hlines after).1 hafter
      exact ⟨changed, hchanged⟩
    · rintro ⟨changed, hchanged⟩
      exact ⟨_, (hlines _).2 ⟨older, changed, newer, holder, hchanged, hnewer, rfl⟩⟩
  · rw [← hkeeps]
    constructor
    · intro hsame
      obtain ⟨older', changed, newer', holder', hchanged, hnewer', heq⟩ := (hlines _).1 hsame
      obtain rfl := Except.ok.inj (holder.symm.trans holder')
      obtain rfl := Except.ok.inj (hnewer.symm.trans hnewer')
      have hrecords := List.append_cancel_left (Database.mk.inj heq)
      have hpair := (Prod.mk.inj (List.cons.inj hrecords).1).2
      rw [hpair]
      exact hchanged
    · intro hchanged
      exact (hlines _).2 ⟨older, entry, newer, holder, hchanged, hnewer, rfl⟩

/-! ## Two lines behind a record -/

/-- The end of the text of one record. -/
def asteroidsEnd : Place where
  front := []
  header := "[4332c24e4f3bc72e7fe1b77adf66c2b7]".toList
  digest := "4332c24e4f3bc72e7fe1b77adf66c2b7".toList
  shown := ["title=3D Asteroids".toList, "type=0".toList, "pokey=false".toList,
    "controller1=1".toList, "controller2=1".toList, "region=0".toList, "flags=0".toList]
  others := []
  rest := []
  starts := by decide
  fixed := by decide
  room := by decide
  inside := by decide
  ends := by decide

/-- A line with no key in it changes nothing; one with a key in its value takes the whole text
with it. -/
theorem parse_addedLine_iff_asteroidsText :
    parse (asteroidsText ++ "players=2\n") = .ok asteroidsDatabase ∧
      ¬ ∃ after, parse (asteroidsText ++ "note=xmas\n") = .ok after := by
  have htext : linesOf asteroidsText = asteroidsEnd.lines := by
    decide +kernel
  have hplayers : linesOf (asteroidsText ++ "players=2\n") =
      asteroidsEnd.linesAdding (dropReturns (valueLine "players" ['2'])) := by
    decide +kernel
  have hnote : linesOf (asteroidsText ++ "note=xmas\n") =
      asteroidsEnd.linesAdding (dropReturns (valueLine "note" ['x', 'm', 'a', 's'])) := by
    decide +kernel
  obtain ⟨_, -, -, -, hsame⟩ :=
    parse_addedLine_iff asteroidsEnd (by decide) htext hplayers parse_asteroidsText
  obtain ⟨_, -, -, hread, -⟩ :=
    parse_addedLine_iff asteroidsEnd (by decide) htext hnote parse_asteroidsText
  have hxmas : flag? (valueOf ['x', 'm', 'a', 's']) = none := by
    decide +kernel
  refine ⟨hsame.2 fun key hfound => ?_, fun hexists => ?_⟩
  · exact absurd hfound (by cases key <;> decide)
  · obtain ⟨flag, hflag⟩ := hread.1 hexists .expansion (.inr (by decide))
    exact nomatch hxmas.symm.trans hflag

end Database
end Console7800
