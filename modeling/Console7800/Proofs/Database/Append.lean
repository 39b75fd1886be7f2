import Console7800.Database
import Console7800.Proofs.Text.Lines

/-!
# One database text after another

A text that ends with a line feed leaves nothing open: a record that is still short there ends where
the next text starts, if that starts with a bracket. So two such texts are read one after the other,
the second one with its lines counted on from those of the first (`parse_append`).
-/

namespace Console7800

/-! ## Errors further down -/

theorem Except.mapError_bind {α β ε ε' : Type} (f : ε → ε') (result : Except ε α)
    (next : α → Except ε β) :
    (result >>= next).mapError f = result.mapError f >>= fun value => (next value).mapError f := by
  cases result <;> rfl

theorem Except.mapError_foldlM {α β ε ε' : Type} (f : ε → ε') {step : β → α → Except ε β}
    {step' : β → α → Except ε' β}
    (h : ∀ state item, step' state item = (step state item).mapError f) (items : List α)
    (state : β) :
    items.foldlM step' state = (items.foldlM step state).mapError f := by
  induction items generalizing state with
  | nil => rfl
  | cons item items ih => simp only [List.foldlM_cons, h, ih, mapError_bind]

namespace Database

/-- The error of a text that has `offset` lines before it. -/
def Error.later (offset : Nat) (error : Error) : Error := { error with line := error.line + offset }

theorem need_add {α : Type} (line offset : Nat) (key : String) (read? : List Char → Option α)
    (text : List Char) :
    need (line + offset) key read? text = (need line key read? text).mapError (.later offset) := by
  unfold need
  split <;> rfl

theorem positional_add (number offset : Nat)
    (title kind pokey first second region flags : List Char) :
    positional (number + offset) title kind pokey first second region flags =
      (positional number title kind pokey first second region flags).mapError (.later offset) := by
  simp only [positional, Nat.add_right_comm number offset, need_add, Except.mapError_bind]
  rfl

theorem applyLine_add (number offset : Nat) (line : List Char) (entry : Entry) :
    applyLine (number + offset) line entry =
      (applyLine number line entry).mapError (.later offset) := by
  refine Except.mapError_foldlM _ (fun entry setting => ?_) settings entry
  split
  · exact need_add ..
  · rfl

theorem applyLines_add (number offset : Nat) (lines : List (List Char)) (entry : Entry) :
    applyLines (number + offset) lines entry =
      (applyLines number lines entry).mapError (.later offset) := by
  induction lines generalizing number entry with
  | nil => rfl
  | cons line lines ih =>
    simp only [applyLines, applyLine_add, Nat.add_right_comm number offset, ih,
      Except.mapError_bind]

theorem parseRecord_add (number offset : Nat) (record : List (List Char)) :
    parseRecord (number + offset) record =
      (parseRecord number record).mapError (.later offset) := by
  unfold parseRecord
  split
  · simp only [positional_add, Nat.add_right_comm number offset, applyLines_add,
      Except.mapError_bind]
  · simp only [Nat.add_right_comm number offset]
    rfl

section

variable {line : List Char} {rest : List (List Char)}

/-- A line that starts no record is passed over. -/
theorem parseLines_skip (h : recordDigest? line = none) (number : Nat)
    (records : List (List Char × Entry)) :
    parseLines number (line :: rest) records = parseLines (number + 1) rest records := by
  rw [parseLines, h]

theorem parseLines_record {digest : List Char} (h : recordDigest? line = some digest)
    (number : Nat) (records : List (List Char × Entry)) :
    parseLines number (line :: rest) records =
      parseRecord (number + 1) (recordBody rest) >>= fun entry =>
        parseLines (number + 1 + (recordBody rest).length) (rest.drop (recordBody rest).length)
          ((digest, entry) :: records) := by
  rw [parseLines, h]

end

/-- Counting lines from further down changes the lines of errors and nothing else. -/
theorem parseLines_add (number offset : Nat) (lines : List (List Char))
    (records : List (List Char × Entry)) :
    parseLines (number + offset) lines records =
      (parseLines number lines records).mapError (.later offset) := by
  fun_induction parseLines number lines records with
  | case1 number records =>
    rw [parseLines]
    rfl
  | case2 number records line rest hdigest ih =>
    rw [parseLines_skip hdigest, Nat.add_right_comm, ih]
  | case3 number records line rest digest hdigest body ih =>
    rw [parseLines_record hdigest, Nat.add_right_comm number, parseRecord_add,
      Except.mapError_bind]
    simp only [Nat.add_right_comm (number + 1) offset, ← ih]
    rfl

/-- Records that were read before stay behind those that are read. -/
theorem parseLines_older (number : Nat) (lines : List (List Char))
    (records older : List (List Char × Entry)) :
    parseLines number lines (records ++ older) =
      (parseLines number lines records).map (· ++ older) := by
  fun_induction parseLines number lines records with
  | case1 number records =>
    rw [parseLines]
    rfl
  | case2 number records line rest hdigest ih => rw [parseLines_skip hdigest, ih]
  | case3 number records line rest digest hdigest body ih =>
    rw [parseLines_record hdigest]
    change (parseRecord (number + 1) body >>= fun entry => parseLines (number + 1 + body.length)
      (rest.drop body.length) ((digest, entry) :: records ++ older)) = _
    simp only [ih]
    cases parseRecord (number + 1) body <;> rfl

/-! ## Records -/

/-- A line that starts with a bracket ends the record before it. -/
theorem recordBody_append (lines : List (List Char)) {second : List (List Char)}
    (h : ∀ line ∈ second.head?, line.head? = some '[') :
    recordBody (lines ++ second) = recordBody lines := by
  have hstop (count : Nat) :
      (second.take count).takeWhile (fun line => line.head? != some '[') = [] := by
    cases second with
    | nil => rw [List.take_nil]; rfl
    | cons line second =>
      cases count with
      | zero => rfl
      | succ count => simp [h line rfl]
  unfold recordBody
  rw [List.take_append, List.takeWhile_append, hstop]
  split
  · rename_i hall
    rw [List.append_nil, List.takeWhile_prefix _ |>.eq_of_length hall]
  · rfl

theorem length_recordBody_le (lines : List (List Char)) :
    (recordBody lines).length ≤ lines.length :=
  Nat.le_trans (List.takeWhile_prefix _).length_le (List.length_take_le' ..)

/-- Lines after others that end no record early are read after them. -/
theorem parseLines_append (number : Nat) (first : List (List Char)) {second : List (List Char)}
    (h : ∀ line ∈ second.head?, line.head? = some '[') (records : List (List Char × Entry)) :
    parseLines number (first ++ second) records =
      parseLines number first records >>= parseLines (number + first.length) second := by
  fun_induction parseLines number first records with
  | case1 number records => rfl
  | case2 number records line rest hdigest ih =>
    rw [List.cons_append, parseLines_skip hdigest, ih, List.length_cons, Nat.add_assoc number,
      Nat.add_comm 1]
  | case3 number records line rest digest hdigest body ih =>
    have hbody : recordBody (rest ++ second) = body := recordBody_append rest h
    have hle : body.length ≤ rest.length := length_recordBody_le rest
    have hend : number + 1 + body.length + (rest.drop body.length).length =
        number + (line :: rest).length := by
      rw [List.length_drop, List.length_cons]
      omega
    rw [List.cons_append, parseLines_record hdigest, hbody, List.drop_append_of_le_length hle]
    simp only [ih, hend]
    cases parseRecord (number + 1) body <;> rfl

/-! ## Texts -/

theorem head?_dropReturns {c : Char} (h : c ≠ '\r') {line : List Char}
    (hline : line.head? = some c) : (dropReturns line).head? = some c := by
  obtain ⟨rest, rfl⟩ := List.head?_eq_some_iff.1 hline
  rw [dropReturns, Text.dropEndWhile_cons (by simpa using h)]
  rfl

/-- The lines that are parsed. -/
def linesOf (text : String) : List (List Char) := (Text.lines text.toList).map dropReturns

theorem head?_linesOf {text : String} (h : text.toList.head? = some '[') :
    ∀ line ∈ (linesOf text).head?, line.head? = some '[' := by
  intro line hmem
  rw [linesOf, List.head?_map] at hmem
  obtain ⟨cut, hcut, rfl⟩ := Option.map_eq_some_iff.1 hmem
  exact head?_dropReturns (by decide) (Text.head?_lines (by decide) (by decide) h cut hcut)

theorem parse_eq (text : String) : parse text = (parseLines 1 (linesOf text) []).map mk := by
  unfold parse linesOf
  cases parseLines 1 ((Text.lines text.toList).map dropReturns) [] <;> rfl

/-- The records of one database, and behind them those of another. -/
def above (database older : Database) : Database := ⟨database.records ++ older.records⟩

theorem lookup?_above (database older : Database) (digest : String) :
    (database.above older).lookup? digest =
      (database.lookup? digest).or (older.lookup? digest) :=
  List.lookup_append

variable {first second : String}

theorem parse_append_eq (hfirst : first = "" ∨ first.toList.getLast? = some '\n')
    (hsecond : second.toList.head? = some '[') :
    parse (first ++ second) = parse first >>= fun older =>
      ((parse second).mapError (.later (Text.lines first.toList).length)).map (·.above older) := by
  have hlines : linesOf (first ++ second) = linesOf first ++ linesOf second := by
    rw [linesOf, String.toList_append,
      Text.lines_append (hfirst.imp_left fun h => by rw [h]; rfl), List.map_append]
    rfl
  have hcount : (linesOf first).length = (Text.lines first.toList).length := List.length_map ..
  have hafter (records : List (List Char × Entry)) :
      parseLines (1 + (linesOf first).length) (linesOf second) records =
        ((parseLines 1 (linesOf second) []).mapError (.later (linesOf first).length)).map
          (· ++ records) := by
    rw [← parseLines_add, ← parseLines_older, List.nil_append]
  rw [parse_eq, parse_eq first, parse_eq second, hlines,
    parseLines_append 1 _ (head?_linesOf hsecond), ← hcount]
  cases parseLines 1 (linesOf first) [] with
  | error error => rfl
  | ok records =>
    change (parseLines (1 + (linesOf first).length) (linesOf second) records).map mk = _
    rw [hafter]
    cases parseLines 1 (linesOf second) [] <;> rfl

/-- A text that is empty or ends with a line feed, and after it a text that starts with a bracket.
Both are read if each of them is. The second one's entries go before those of the first, and an
error in the second one is found as many lines further down as the first one has. -/
theorem parse_append (hfirst : first = "" ∨ first.toList.getLast? = some '\n')
    (hsecond : second.toList.head? = some '[') :
    ((∃ database, parse (first ++ second) = .ok database) ↔
        (∃ older, parse first = .ok older) ∧ ∃ newer, parse second = .ok newer) ∧
      (∀ database older newer, parse (first ++ second) = .ok database → parse first = .ok older →
        parse second = .ok newer → ∀ digest,
          database.lookup? digest = (newer.lookup? digest).or (older.lookup? digest)) ∧
      ∀ older error, parse first = .ok older → parse second = .error error →
        parse (first ++ second) =
          .error { error with line := error.line + (Text.lines first.toList).length } := by
  rw [parse_append_eq hfirst hsecond]
  refine ⟨?_, fun database older newer h holder hnewer digest => ?_,
    fun older error holder herror => ?_⟩
  · cases parse first with
    | error error => exact ⟨nofun, fun h => nomatch h.1⟩
    | ok older =>
      cases parse second with
      | error error => exact ⟨nofun, fun h => nomatch h.2⟩
      | ok newer => exact ⟨fun _ => ⟨⟨older, rfl⟩, newer, rfl⟩, fun _ => ⟨newer.above older, rfl⟩⟩
  · rw [holder, hnewer] at h
    rw [← Except.ok.inj h]
    exact newer.lookup?_above older digest
  · rw [holder, herror]
    rfl

/-! ## Two short texts -/

/-- A text of one record. -/
def asteroidsText : String :=
  "[4332c24e4f3bc72e7fe1b77adf66c2b7]\ntitle=3D Asteroids\ntype=0\npokey=false\n" ++
    "controller1=1\ncontroller2=1\nregion=0\nflags=0\n"

/-- A record that breaks off after its title. -/
def brokenText : String := "[4332C24E4F3BC72E7FE1B77ADF66C2B7]\ntitle=Asteroids"

/-- What is read of it. -/
def asteroidsDatabase : Database where
  records := [("4332c24e4f3bc72e7fe1b77adf66c2b7".toList,
    { title := "3D Asteroids"
      mapper := .normal
      pokey := false
      controllers := (1, 1)
      region := .ntsc
      flags := 0 })]

/-- What two texts are read as can be compared. -/
local instance : DecidableEq (Except Error Database)
  | .ok first, .ok second => decidable_of_iff (first = second) (by simp)
  | .error first, .error second => decidable_of_iff (first = second) (by simp)
  | .ok _, .error _ | .error _, .ok _ => isFalse nofun

theorem parse_asteroidsText : parse asteroidsText = .ok asteroidsDatabase := by
  decide +kernel

theorem parse_brokenText : parse brokenText = .error ⟨3, "type", ""⟩ := by
  decide +kernel

/-- The second record lacks its second line, which is the eleventh of both texts together. -/
theorem parse_append_brokenText :
    (asteroidsText = "" ∨ asteroidsText.toList.getLast? = some '\n') ∧
      brokenText.toList.head? = some '[' ∧
      parse (asteroidsText ++ brokenText) = .error ⟨11, "type", ""⟩ ∧
      ¬ ∃ database, parse (asteroidsText ++ brokenText) = .ok database := by
  have hfirst : asteroidsText = "" ∨ asteroidsText.toList.getLast? = some '\n' := by
    right
    decide +kernel
  have hsecond : brokenText.toList.head? = some '[' := by
    decide +kernel
  have hcount : (Text.lines asteroidsText.toList).length = 8 := by
    decide +kernel
  obtain ⟨hparse, -, herror⟩ := parse_append hfirst hsecond
  have hboth := herror _ _ parse_asteroidsText parse_brokenText
  rw [hcount] at hboth
  refine ⟨hfirst, hsecond, hboth, fun h => ?_⟩
  obtain ⟨-, newer, hnewer⟩ := hparse.1 h
  rw [parse_brokenText] at hnewer
  cases hnewer

end Database

end Console7800
