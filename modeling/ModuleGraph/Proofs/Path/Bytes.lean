import ModuleGraph.Proofs.Path.Display
import ModuleGraph.Proofs.Path.Lossy

/-!
# Paths of bytes as they are shown

What is known of paths as texts holds of paths of bytes, since nothing but slashes and dots is
looked at in them: of a clean path the bytes shown lead, from the root directory, to it again. What
is printed are these bytes read as UTF-8. They can be read back only if they are the bytes of a
text, and paths that are not can be printed alike (`BytePath.shown_faithful_replaced`).

A text becomes a path by its UTF-8 bytes, and what is printed of that path is what is shown of the
text (`BytePath.shown_encode`).
-/

namespace ModuleGraph

/-! ## The letters of what is shown -/

namespace Path

variable {root path : String} {letter : Char}

/-- What has no slash in it is written at the beginning of the first piece of what is behind it. -/
theorem pieces_append {before : List Char} (no_slash : '/' ∉ before) (behind : List Char) :
    pieces (before ++ behind) = (pieces behind).modifyHead (before ++ ·) := by
  obtain ⟨piece, others, shape⟩ := exists_pieces_eq_cons behind
  induction before with
  | nil => simp [shape]
  | cons letter before ih =>
      rw [List.mem_cons, not_or] at no_slash
      rw [List.cons_append, pieces, List.splitOn_cons_eq_if_modifyHead,
        if_neg (by simpa using Ne.symm no_slash.1)]
      change List.modifyHead _ (pieces _) = _
      rw [ih no_slash.2, shape]
      rfl

theorem mem_of_mem_pieces {text piece : List Char} (h : piece ∈ pieces text)
    (listed : letter ∈ piece) : letter ∈ text := by
  obtain ⟨i, found⟩ := List.getElem?_of_mem h
  have between : ((pieces text).intersperse ['/'])[2 * i]? = some piece :=
    List.getElem?_intersperse_two_mul.trans found
  have whole : ['/'].intercalate (pieces text) = text := List.intercalate_splitOn '/'
  rw [← whole]
  exact List.mem_flatten_of_mem (List.mem_of_getElem? between) listed

theorem mem_steps_of_mem_components {name : String} (h : .name name ∈ components path) :
    .name name ∈ steps path := by
  cases absolute : isAbsolute path with
  | true =>
      rw [components_of_absolute absolute] at h
      exact (List.mem_cons.mp h).resolve_left Component.noConfusion
  | false =>
      rcases components_of_relative absolute with same | same
      · rwa [same] at h
      · rw [same] at h
        exact (List.mem_cons.mp h).resolve_left Component.noConfusion

theorem mem_of_mem_components {name : String} (h : .name name ∈ components path)
    (listed : letter ∈ name.toList) : letter ∈ path.toList := by
  obtain ⟨piece, present, stands⟩ := List.mem_filterMap.mp (mem_steps_of_mem_components h)
  unfold componentOf? at stands
  split at stands
  · cases stands
  · split at stands
    · cases stands
    · cases stands
      rw [String.toList_ofList] at listed
      exact mem_of_mem_pieces present listed

theorem mem_intercalate {texts : List (List Char)} (h : letter ∈ ['/'].intercalate texts) :
    letter = '/' ∨ ∃ text ∈ texts, letter ∈ text := by
  induction texts with
  | nil => cases h
  | cons first others ih =>
      cases others with
      | nil => exact .inr ⟨first, List.mem_cons_self, by simpa using h⟩
      | cons second others =>
          rw [List.intercalate_cons_cons, List.append_assoc, List.mem_append] at h
          rcases h with here | behind
          · exact .inr ⟨first, List.mem_cons_self, here⟩
          · rcases List.mem_append.mp behind with slash | later
            · exact .inl (List.mem_singleton.mp slash)
            · exact (ih later).imp_right fun ⟨text, listed, within⟩ =>
                ⟨text, List.mem_cons_of_mem _ listed, within⟩

/-- What is shown of a path has no letters but those of the path, slashes and dots. -/
theorem mem_display_cases (h : letter ∈ (display (some root) path).toList) :
    letter ∈ path.toList ∨ letter = '/' ∨ letter = '.' := by
  by_cases below : ∃ rest, LeadsDown root path rest
  · obtain ⟨rest, down⟩ := below
    rw [display_of_leadsDown down, textDown] at h
    split at h
    · exact .inr (.inr (List.mem_singleton.mp h))
    · rw [String.toList_intercalate] at h
      rcases mem_intercalate h with slash | ⟨_, listed, within⟩
      · exact .inr (.inl slash)
      · rw [List.map_map] at listed
        obtain ⟨component, present, rfl⟩ := List.mem_map.mp listed
        cases component with
        | root => exact .inr (.inl (List.mem_singleton.mp within))
        | here => exact .inr (.inr (List.mem_singleton.mp within))
        | parent =>
            have dots : letter ∈ ['.', '.'] := within
            exact .inr (.inr (by simpa using dots))
        | name text =>
            refine .inl (mem_of_mem_components ?_ within)
            rw [down.behind]
            exact List.mem_append_right _ present
  · rw [display_of_not_leadsDown fun rest down => below ⟨rest, down⟩] at h
    exact .inl h

end Path

namespace BytePath

/-! ## A character for each byte -/

theorem toNat_ofUInt8 (byte : UInt8) : (Char.ofUInt8 byte).toNat = byte.toNat := by
  show byte.toUInt32.toNat = byte.toNat
  exact UInt8.toNat_toUInt32 byte

theorem ofText_text (path : List UInt8) : ofText (text path) = path := by
  have back : Char.toUInt8 ∘ Char.ofUInt8 = id := by
    funext byte
    show byte.toUInt32.toUInt8 = byte
    exact UInt8.toUInt8_toUInt32 byte
  rw [ofText, text, String.toList_ofList, List.map_map, back, List.map_id]

theorem text_injective : Function.Injective text :=
  Function.LeftInverse.injective ofText_text

theorem toNat_lt_of_mem_text {path : List UInt8} {letter : Char}
    (h : letter ∈ (text path).toList) : letter.toNat < 256 := by
  rw [text, String.toList_ofList] at h
  obtain ⟨byte, _, rfl⟩ := List.mem_map.mp h
  rw [toNat_ofUInt8]
  exact byte.toNat_lt

theorem text_ofText {all : String} (h : ∀ letter ∈ all.toList, letter.toNat < 256) :
    text (ofText all) = all := by
  have same : ∀ letter ∈ all.toList, Char.ofUInt8 letter.toUInt8 = letter := by
    intro letter listed
    have small : letter.val.toNat % 256 = letter.val.toNat := Nat.mod_eq_of_lt (h letter listed)
    apply Char.ext
    apply UInt32.toNat_inj.mp
    show letter.val.toUInt8.toUInt32.toNat = letter.val.toNat
    rw [UInt8.toNat_toUInt32, UInt32.toNat_toUInt8, small]
  apply String.toList_inj.mp
  rw [ofText, text, String.toList_ofList, List.map_map]
  exact (List.map_congr_left same).trans (List.map_id _)

/-- What is shown of a path of bytes is what is shown of its text. -/
theorem text_shown (root path : List UInt8) :
    text (shown (some root) path) = Path.display (some (text root)) (text path) := by
  apply text_ofText
  intro letter listed
  rcases Path.mem_display_cases listed with within | rfl | rfl
  · exact toNat_lt_of_mem_text within
  · decide
  · decide

/-! ## Texts spelled by their bytes -/

/-- The letters that spell a letter, one for each of its bytes. -/
def letters (letter : Char) : List Char :=
  (String.utf8EncodeChar letter).map Char.ofUInt8

/-- A text with one letter for each of its bytes. -/
def spelled (all : String) : String :=
  text (Utf8.encode all)

theorem toList_spelled (all : String) : (spelled all).toList = all.toList.flatMap letters := by
  rw [spelled, text, Utf8.encode, String.toList_ofList, List.map_flatMap]
  rfl

theorem spelled_injective : Function.Injective spelled :=
  text_injective.comp Utf8.encode_injective

theorem flatMap_letters_inj (all other : List Char) :
    all.flatMap letters = other.flatMap letters ↔ all = other := by
  refine ⟨fun h => ?_, congrArg _⟩
  have same : spelled (String.ofList all) = spelled (String.ofList other) := by
    apply String.toList_inj.mp
    rw [toList_spelled, toList_spelled, String.toList_ofList, String.toList_ofList, h]
  exact String.ofList_inj.mp (spelled_injective same)

theorem letters_ne_nil (letter : Char) : letters letter ≠ [] :=
  fun none => String.utf8EncodeChar_ne_nil (List.map_eq_nil_iff.mp none)

/-- A slash spells nothing but a slash. -/
theorem eq_slash_of_mem_letters {letter : Char} (h : '/' ∈ letters letter) : letter = '/' := by
  obtain ⟨byte, listed, same⟩ := List.mem_map.mp h
  have slash : byte.toNat = 0x2F := (toNat_ofUInt8 byte).symm.trans (congrArg Char.toNat same)
  rcases Utf8.mem_encodeChar listed with own | upper
  · apply Char.ext
    apply UInt32.toNat_inj.mp
    exact own.symm.trans slash
  · omega

/-! ## What is made of a spelled path -/

/-- The pieces of a text spelled are its pieces spelled: no slash comes in between. -/
theorem pieces_flatMap_letters (all : List Char) :
    Path.pieces (all.flatMap letters) = (Path.pieces all).map (·.flatMap letters) := by
  induction all with
  | nil => rfl
  | cons letter rest ih =>
      rw [List.flatMap_cons]
      by_cases slash : letter = '/'
      · subst slash
        calc Path.pieces (letters '/' ++ rest.flatMap letters)
          _ = [] :: Path.pieces (rest.flatMap letters) := Path.pieces_append_slash [] _
          _ = (Path.pieces ('/' :: rest)).map (·.flatMap letters) := by
            rw [ih, ← List.nil_append ('/' :: rest), Path.pieces_append_slash]
            rfl
      · obtain ⟨piece, others, shape⟩ := Path.exists_pieces_eq_cons rest
        have alone : '/' ∉ [letter] := fun listed => slash (List.mem_singleton.mp listed).symm
        rw [Path.pieces_append (fun listed => slash (eq_slash_of_mem_letters listed)), ih,
          ← List.singleton_append, Path.pieces_append alone, shape]
        simp

theorem isAbsolute_spelled (path : String) :
    Path.isAbsolute (spelled path) = Path.isAbsolute path := by
  rw [Path.isAbsolute, Path.isAbsolute, toList_spelled]
  cases path.toList with
  | nil => rfl
  | cons letter rest =>
      by_cases slash : letter = '/'
      · subst slash
        rfl
      · obtain ⟨first, others, shape⟩ := List.exists_cons_of_ne_nil (letters_ne_nil letter)
        have other : first ≠ '/' := by
          rintro rfl
          exact slash (eq_slash_of_mem_letters (shape ▸ List.mem_cons_self))
        rw [List.flatMap_cons, shape]
        simp [slash, other]

/-- A component with its name spelled. -/
def spelledComponent : Path.Component → Path.Component
  | .name text => .name (spelled text)
  | component => component

theorem componentOf?_flatMap_letters (piece : List Char) :
    Path.componentOf? (piece.flatMap letters) = (Path.componentOf? piece).map spelledComponent := by
  have empty : piece.flatMap letters = [] ↔ piece = [] := flatMap_letters_inj _ []
  have here : piece.flatMap letters = ['.'] ↔ piece = ['.'] := flatMap_letters_inj _ ['.']
  have parent : piece.flatMap letters = ['.', '.'] ↔ piece = ['.', '.'] :=
    flatMap_letters_inj _ ['.', '.']
  have name : String.ofList (piece.flatMap letters) = spelled (String.ofList piece) := by
    apply String.toList_inj.mp
    rw [toList_spelled, String.toList_ofList, String.toList_ofList]
  simp only [Path.componentOf?, empty, here, parent, name]
  split_ifs <;> rfl

theorem components_spelled (path : String) :
    Path.components (spelled path) = (Path.components path).map spelledComponent := by
  have named : ((Path.pieces path.toList).map (·.flatMap letters)).filterMap Path.componentOf? =
      ((Path.pieces path.toList).filterMap Path.componentOf?).map spelledComponent := by
    rw [List.filterMap_map, List.map_filterMap]
    exact List.filterMap_congr fun piece _ => componentOf?_flatMap_letters piece
  have dot : ((Path.pieces path.toList).map (·.flatMap letters)).head? = some ['.'] ↔
      (Path.pieces path.toList).head? = some ['.'] := by
    rw [List.head?_map]
    cases (Path.pieces path.toList).head? with
    | none => rfl
    | some piece =>
      rw [Option.map_some, Option.some_inj, Option.some_inj]
      exact flatMap_letters_inj piece ['.']
  simp only [Path.components, toList_spelled, pieces_flatMap_letters, isAbsolute_spelled, named,
    dot, List.map_append]
  congr 1
  split_ifs <;> rfl

theorem text_spelledComponent (component : Path.Component) :
    (spelledComponent component).text = spelled component.text := by
  cases component with
  | name => rfl
  | root | here | parent => decide +kernel

theorem spelled_intercalate (texts : List String) :
    spelled ("/".intercalate texts) = "/".intercalate (texts.map spelled) := by
  have spell (all : List (List Char)) : (['/'].intercalate all).flatMap letters =
      ['/'].intercalate (all.map (·.flatMap letters)) := by
    induction all with
    | nil => rfl
    | cons first others ih =>
        cases others with
        | nil => simp
        | cons second others =>
            rw [List.intercalate_cons_cons, List.flatMap_append, List.flatMap_append, ih,
              List.map_cons, List.map_cons, List.map_cons, List.intercalate_cons_cons]
            rfl
  have each : List.flatMap letters ∘ String.toList = String.toList ∘ spelled :=
    funext fun text => (toList_spelled text).symm
  apply String.toList_inj.mp
  rw [toList_spelled, String.toList_intercalate, String.toList_intercalate, List.map_map, ← each,
    ← List.map_map]
  exact spell _

theorem spelled_textDown (rest : List Path.Component) :
    spelled (Path.textDown rest) = Path.textDown (rest.map spelledComponent) := by
  rw [Path.textDown, Path.textDown]
  simp only [List.map_eq_nil_iff]
  split
  · decide +kernel
  · rw [spelled_intercalate, List.map_map, List.map_map]
    congr 1
    exact List.map_congr_left fun component _ => (text_spelledComponent component).symm

theorem spelledComponent_injective : Function.Injective spelledComponent := by
  intro component other same
  cases component <;> cases other <;> simp_all [spelledComponent, spelled_injective.eq_iff]

/-- What leads down to a spelled path is spelled. -/
theorem leadsDown_spelled_iff {root path : String} {rest : List Path.Component} :
    Path.LeadsDown (spelled root) (spelled path) rest ↔
      ∃ before, Path.LeadsDown root path before ∧ before.map spelledComponent = rest := by
  have not_up (before : List Path.Component) :
      (before.map spelledComponent).head? ≠ some .parent ↔ before.head? ≠ some .parent := by
    have up : spelledComponent .parent = .parent := rfl
    nth_rewrite 1 [← up]
    rw [List.head?_map, ne_eq, ne_eq, Option.map_eq_some_iff]
    simp [spelledComponent_injective.eq_iff]
  have nothing : (Path.components (spelled root) = [] → Path.components (spelled path) = []) ↔
      (Path.components root = [] → Path.components path = []) := by
    rw [components_spelled, components_spelled, List.map_eq_nil_iff, List.map_eq_nil_iff]
  constructor
  · rintro ⟨behind, of_nothing, down⟩
    rw [components_spelled, components_spelled] at behind
    obtain ⟨common, before, whole, same, rfl⟩ := List.map_eq_append_iff.mp behind
    rw [List.map_inj_right spelledComponent_injective] at same
    exact ⟨before, ⟨same ▸ whole, nothing.mp of_nothing, (not_up before).mp down⟩, rfl⟩
  · rintro ⟨before, ⟨behind, of_nothing, down⟩, rfl⟩
    refine ⟨?_, nothing.mpr of_nothing, (not_up before).mpr down⟩
    rw [components_spelled, components_spelled, behind, List.map_append]

/-- What is shown of a spelled path is spelled. -/
theorem display_spelled (root path : String) :
    Path.display (some (spelled root)) (spelled path) =
      spelled (Path.display (some root) path) := by
  by_cases below : ∃ rest, Path.LeadsDown root path rest
  · obtain ⟨rest, down⟩ := below
    have spelled_down := leadsDown_spelled_iff.mpr ⟨rest, down, rfl⟩
    rw [Path.display_of_leadsDown down, Path.display_of_leadsDown spelled_down, spelled_textDown]
  · rw [Path.display_of_not_leadsDown fun rest down => below ⟨rest, down⟩]
    apply Path.display_of_not_leadsDown
    intro rest down
    obtain ⟨before, down, _⟩ := leadsDown_spelled_iff.mp down
    exact below ⟨before, down⟩

/-- Of the bytes of a text are shown the bytes of what is shown of the text. -/
theorem shown_encode (root path : String) :
    shown (some (Utf8.encode root)) (Utf8.encode path) =
      Utf8.encode (Path.display (some root) path) := by
  apply text_injective
  rw [text_shown]
  exact display_spelled root path

/-! ## What is printed -/

/-- Bytes from which a path can be had again: read from the root directory they lead where the path
leads, and outside the root directory they are the path. -/
structure LeadsBack (root path bytes : List UInt8) : Prop where
  components : Path.components (Path.join (text root) (text bytes)) = Path.components (text path)
  clean : Path.clean (Path.join (text root) (text bytes)) = text path
  outside : ¬ Path.IsWithin (text root) (text path) → bytes = path

theorem LeadsBack.unique {root path other bytes : List UInt8} (h : LeadsBack root path bytes)
    (h' : LeadsBack root other bytes) : path = other :=
  text_injective (h.clean.symm.trans h'.clean)

/-- The bytes that are shown of a clean path lead back to it. -/
theorem leadsBack_shown {root path : List UInt8} (clean_root : Path.IsClean (text root))
    (clean_path : Path.IsClean (text path)) : LeadsBack root path (shown (some root) path) := by
  obtain ⟨_, _, faithful⟩ := Path.display_faithful (text root)
  obtain ⟨components, clean, outside, _⟩ := faithful clean_root _ clean_path
  rw [← text_shown] at components clean outside
  exact ⟨components, clean, fun beside => text_injective (outside beside)⟩

theorem display_of_shown {root path : List UInt8} {printed : String}
    (h : shown (some root) path = Utf8.encode printed) : display (some root) path = printed := by
  rw [display, h, Utf8.lossy_encode]

/-- A path of any bytes is printed relative to a root directory exactly if the components of the
root directory, unless there are none, are the first of its own, and the others do not begin
upwards, or if neither has any. Then these others are printed. Otherwise it is printed as it is
written. What is printed are bytes read as UTF-8, with a replacement for whatever is no character.

If the root directory and the path are clean, the bytes lead back to the path. So does what is
printed if they are the bytes of a text, and no two paths of which that holds are printed alike. It
holds wherever the root directory and the path are texts, and then as much is printed of the bytes
as is shown of the texts. -/
theorem shown_faithful (root : List UInt8) :
    (∀ path rest, Path.LeadsDown (text root) (text path) rest →
      display (some root) path = Utf8.lossy (ofText (Path.textDown rest))) ∧
    (∀ path, (∀ rest, ¬ Path.LeadsDown (text root) (text path) rest) →
      display (some root) path = Utf8.lossy path) ∧
    (Path.IsClean (text root) → ∀ path, Path.IsClean (text path) →
      LeadsBack root path (shown (some root) path) ∧
      ∀ printed, shown (some root) path = Utf8.encode printed →
        display (some root) path = printed ∧
        LeadsBack root path (Utf8.encode (display (some root) path)) ∧
        ∀ other, Path.IsClean (text other) →
          (∃ printed, shown (some root) other = Utf8.encode printed) →
          display (some root) path = display (some root) other → path = other) ∧
    ∀ directory path : String, Utf8.encode directory = root →
      shown (some root) (Utf8.encode path) = Utf8.encode (Path.display (some directory) path) ∧
      display (some root) (Utf8.encode path) = Path.display (some directory) path := by
  refine ⟨?_, ?_, ?_, ?_⟩
  · intro path rest down
    rw [display, shown, Option.map_some, Path.display_of_leadsDown down]
  · intro path not_down
    rw [display, shown, Option.map_some, Path.display_of_not_leadsDown not_down, ofText_text]
  · intro clean_root path clean_path
    have back := leadsBack_shown clean_root clean_path
    refine ⟨back, fun printed same => ?_⟩
    have read := display_of_shown same
    refine ⟨read, by rwa [read, ← same], ?_⟩
    rintro other clean_other ⟨printed', same'⟩ alike
    have back' := leadsBack_shown clean_root clean_other
    rw [same', ← display_of_shown same', ← alike, read, ← same] at back'
    exact back.unique back'
  · rintro directory path rfl
    have same := shown_encode directory path
    exact ⟨same, display_of_shown same⟩

/-- A file below the root directory is printed by its names there, letters outside ASCII included,
and one in a directory whose name begins like that of the root directory as it is written. -/
theorem shown_faithful_beside :
    display (some (Utf8.encode "/project/app")) (Utf8.encode "/project/app/ü.js") = "ü.js" ∧
      LeadsBack (Utf8.encode "/project/app") (Utf8.encode "/project/app/ü.js")
        (Utf8.encode "ü.js") ∧
      display (some (Utf8.encode "/project/app")) (Utf8.encode "/project/application/x.js") =
        "/project/application/x.js" := by
  have clean_root : Path.IsClean (text (Utf8.encode "/project/app")) := by decide +kernel
  have clean_path : Path.IsClean (text (Utf8.encode "/project/app/ü.js")) := by decide +kernel
  have clean_beside : Path.IsClean (text (Utf8.encode "/project/application/x.js")) := by
    decide +kernel
  obtain ⟨_, _, clean, _⟩ := shown_faithful (Utf8.encode "/project/app")
  obtain ⟨printed, back, _⟩ := (clean clean_root _ clean_path).2 "ü.js" (by decide +kernel)
  obtain ⟨beside, printed_beside⟩ := clean clean_root _ clean_beside
  exact ⟨printed, printed ▸ back, (printed_beside _ (beside.outside (by decide +kernel))).1⟩

/-- Two names that end in bytes with which no character begins are printed alike, and what is
printed leads back to neither. -/
theorem shown_faithful_replaced :
    Path.IsClean (text (Utf8.encode "/r")) ∧
      Utf8.encode "/r/a" ++ [0xFF] ≠ Utf8.encode "/r/a" ++ [0xFE] ∧
      ∀ byte ∈ ([0xFF, 0xFE] : List UInt8), Path.IsClean (text (Utf8.encode "/r/a" ++ [byte])) ∧
        display (some (Utf8.encode "/r")) (Utf8.encode "/r/a" ++ [byte]) = "a\uFFFD" ∧
        ¬ LeadsBack (Utf8.encode "/r") (Utf8.encode "/r/a" ++ [byte]) (Utf8.encode "a\uFFFD") := by
  have lost : ∀ byte ∈ ([0xFF, 0xFE] : List UInt8),
      Path.clean (Path.join (text (Utf8.encode "/r")) (text (Utf8.encode "a\uFFFD"))) ≠
        text (Utf8.encode "/r/a" ++ [byte]) := by decide +kernel
  have printed : ∀ byte ∈ ([0xFF, 0xFE] : List UInt8),
      Path.IsClean (text (Utf8.encode "/r/a" ++ [byte])) ∧
        display (some (Utf8.encode "/r")) (Utf8.encode "/r/a" ++ [byte]) = "a\uFFFD" := by
    decide +kernel
  refine ⟨by decide +kernel, by decide +kernel, fun byte given => ?_⟩
  obtain ⟨clean, alike⟩ := printed byte given
  exact ⟨clean, alike, fun back => lost byte given back.clean⟩

end BytePath

end ModuleGraph
