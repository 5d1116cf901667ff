import Pacts.Http.Answer
import Pacts.Proofs.Placeholder.Letters
import Pacts.Proofs.Text.Fields

/-!
# Content types of JSON

A content type is a name, perhaps with blanks around it, and perhaps with parameters behind a
semicolon.  Only the name counts, and of its letters only what they are when they are made small.
`nameOf` is what counts.

* `isJson_mediaType_iff` says which names are those of JSON.
* `nameOf_around`: parameters, the blanks around a name and the case of its letters do not count.
-/

set_option autoImplicit false

namespace Pacts

namespace Text

/-! ## Blanks and the case of letters -/

theorem isBlank_toLower (c : Char) : isBlank c.toLower = isBlank c := by
  by_cases hcapital : c.val ≥ 'A'.val ∧ c.val ≤ 'Z'.val
  · -- neither a capital letter nor the small one 32 characters behind it is a blank
    have hval : c.toLower.val = c.val + 32 := congrArg Char.val (dif_pos hcapital)
    obtain ⟨hA, hZ⟩ := hcapital
    have hfirst : 65 ≤ c.toNat := hA
    have hlast : c.toNat ≤ 90 := hZ
    have hlower : c.toLower.toNat = c.toNat + 32 := by
      have hbound : c.val.toNat + 32 < 2 ^ 32 := by
        change c.toNat + 32 < 2 ^ 32
        omega
      change c.toLower.val.toNat = c.val.toNat + 32
      rw [hval, UInt32.toNat_add]
      exact Nat.mod_eq_of_lt hbound
    simp only [isBlank, hlower]
    grind
  · rw [show c.toLower = c from dif_neg hcapital]

theorem trim_map_toLower (cs : List Char) :
    trim (cs.map Char.toLower) = (trim cs).map Char.toLower := by
  have hblank : isBlank ∘ Char.toLower = isBlank := funext isBlank_toLower
  simp only [trim, trimRight, trimLeft, List.dropWhile_map, ← List.map_reverse, hblank]

theorem trimRight_append {right : List Char} (hr : isBlankText right = true) (cs : List Char) :
    trimRight (cs ++ right) = trimRight cs := by
  rw [isBlankText, List.all_eq_true] at hr
  rw [trimRight, List.reverse_append, List.dropWhile_append_of_pos, trimRight]
  exact fun c hc => hr c (List.mem_reverse.1 hc)

/-- Blanks around a text do not count. -/
theorem trim_around {left right : List Char} (hl : isBlankText left = true)
    (hr : isBlankText right = true) (cs : List Char) : trim (left ++ (cs ++ right)) = trim cs := by
  have hleft : trimLeft (left ++ (cs ++ right)) = trimLeft (cs ++ right) :=
    List.dropWhile_append_of_pos (List.all_eq_true.1 hl)
  have hright : trimRight (trimLeft (cs ++ right)) = trimRight (trimLeft cs) := by
    rw [trimLeft, List.dropWhile_append]
    split
    · rename_i hempty
      have hblank : right.dropWhile isBlank = [] :=
        List.dropWhile_eq_nil_iff.2 (List.all_eq_true.1 hr)
      rw [hblank, trimLeft, List.isEmpty_iff.1 hempty]
    · exact trimRight_append hr _
  rw [trim, hleft, hright, trim]

theorem exists_around_trim (cs : List Char) :
    ∃ left right, isBlankText left = true ∧ isBlankText right = true ∧
      cs = left ++ (trim cs ++ right) := by
  refine ⟨cs.takeWhile isBlank, ((trimLeft cs).reverse.takeWhile isBlank).reverse,
    List.all_eq_true.2 fun c hc => List.mem_takeWhile_imp hc, ?_, ?_⟩
  · exact List.all_eq_true.2 fun c hc => List.mem_takeWhile_imp (List.mem_reverse.1 hc)
  · rw [trim, trimRight, ← List.reverse_append, List.takeWhile_append_dropWhile,
      List.reverse_reverse, trimLeft, List.takeWhile_append_dropWhile]

/-- What stands at the end of a text and has no blanks around it stays there. -/
theorem suffix_trim_append {suffix : List Char} (h : IsTrimmed suffix) (hne : suffix ≠ [])
    (cs : List Char) : suffix <:+ trim (cs ++ suffix) := by
  have hleft : ∃ front, trimLeft (cs ++ suffix) = front ++ suffix := by
    rw [trimLeft, List.dropWhile_append]
    split
    · refine ⟨[], ?_⟩
      obtain ⟨c, suffix, rfl⟩ := List.exists_cons_of_ne_nil hne
      exact trimLeft_of_head (h.first c rfl)
    · exact ⟨cs.dropWhile isBlank, rfl⟩
  obtain ⟨front, hfront⟩ := hleft
  refine ⟨front, ?_⟩
  rw [trim, hfront, trimRight_eq_rdropWhile, eq_comm, List.rdropWhile_eq_self_iff]
  intro happend
  rw [List.getLast_append_of_ne_nil happend hne, h.last _ (List.getLast?_eq_some_getLast hne)]
  exact Bool.false_ne_true

end Text

namespace Http

/-! ## What counts -/

/-- What stands in front of the first semicolon. -/
def front (cs : List Char) : List Char := cs.takeWhile (· ≠ ';')

/-- What a content type says apart from parameters, blanks and the case of letters. -/
def nameOf (contentType : String) : String := lowered (trimmed (beforeParameters contentType))

theorem toList_nameOf (contentType : String) :
    (nameOf contentType).toList = (Text.trim (front contentType.toList)).map Char.toLower := by
  simp only [nameOf, lowered, trimmed, beforeParameters, front, String.toList_ofList]

/-- A semicolon has no other case. -/
theorem front_map_toLower (cs : List Char) :
    front (cs.map Char.toLower) = (front cs).map Char.toLower := by
  have hsemicolon : ∀ c : Char, c.toLower ≠ ';' ↔ c ≠ ';' := fun c =>
    not_congr ⟨eq_of_toLower_eq (by decide), fun h => by rw [h]; rfl⟩
  simp only [front, List.takeWhile_map, Function.comp_def, hsemicolon]

/-- What stands in front of the first semicolon has none. -/
theorem front_front (cs : List Char) : front (front cs) = front cs := by
  rw [front, List.takeWhile_eq_self_iff]
  intro c hc
  exact List.mem_takeWhile_imp (p := (· ≠ ';')) hc

theorem nameOf_beforeParameters (contentType : String) :
    nameOf (beforeParameters contentType) = nameOf contentType := by
  rw [← String.toList_inj, toList_nameOf, toList_nameOf, beforeParameters, String.toList_ofList,
    ← front, front_front]

theorem nameOf_congr {a b : String} (h : sameLetters a b = true) : nameOf a = nameOf b := by
  rw [sameLetters_iff, lowered, lowered, String.ofList_inj] at h
  rw [← String.toList_inj, toList_nameOf, toList_nameOf, ← Text.trim_map_toLower,
    ← Text.trim_map_toLower, ← front_map_toLower, ← front_map_toLower, h]

/-- Blanks around a name and parameters behind it do not count. -/
theorem trim_front_around {left name right parameters : List Char}
    (hl : Text.isBlankText left = true) (hr : Text.isBlankText right = true)
    (hp : ∀ c ∈ parameters.head?, c = ';') :
    Text.trim (front (left ++ (name ++ (right ++ parameters)))) = Text.trim (front name) := by
  have hblank : ∀ {cs : List Char}, Text.isBlankText cs = true →
      ∀ c ∈ cs, decide (c ≠ ';') = true := by
    rintro cs h c hc
    refine decide_eq_true ?_
    rintro rfl
    exact absurd (List.all_eq_true.1 h _ hc) (by decide)
  have hbehind : (right ++ parameters).takeWhile (· ≠ ';') = right := by
    rw [List.takeWhile_append_of_pos (hblank hr)]
    cases parameters with
    | nil => simp
    | cons c cs => simp [hp c rfl]
  rw [front, front, List.takeWhile_append_of_pos (hblank hl), List.takeWhile_append]
  split
  · rename_i hlength
    have hstart : name.takeWhile (· ≠ ';') <+: name := List.takeWhile_prefix _
    rw [hbehind, hstart.eq_of_length hlength, Text.trim_around hl hr]
  · -- the name has a semicolon of its own, and nothing behind that counts
    have hblanks := Text.trim_around hl (show Text.isBlankText [] = true from rfl)
      (name.takeWhile (· ≠ ';'))
    simpa using hblanks

/-- **Only the name of a content type counts**: neither what stands behind a semicolon, nor the
blanks around the name, nor the case of its letters. -/
theorem nameOf_around {left name name' right parameters : String}
    (hl : isBlankString left = true) (hr : isBlankString right = true)
    (hp : ∀ c ∈ parameters.toList.head?, c = ';') (hn : sameLetters name name' = true) :
    nameOf (left ++ (name' ++ (right ++ parameters))) = nameOf name := by
  rw [nameOf_congr hn, ← String.toList_inj, toList_nameOf, toList_nameOf]
  simp only [String.toList_append]
  rw [trim_front_around hl hr hp]

/-! ## Names of JSON -/

/-- The names of JSON: `application/json`, and whatever ends in `+json`, in any case of letters. -/
inductive NamesJson : String → Prop
  | plain {name : String} (h : sameLetters name "application/json" = true) : NamesJson name
  | suffix {front suffix : String} (h : sameLetters suffix "+json" = true) :
      NamesJson (front ++ suffix)

/-- The content types of JSON: a name of JSON, perhaps with blanks around it, and perhaps with
parameters behind a semicolon. -/
inductive IsJsonType : Option String → Prop
  | named {left name right parameters : String} (hl : isBlankString left = true)
      (hr : isBlankString right = true) (hp : ∀ c ∈ parameters.toList.head?, c = ';')
      (plain : ';' ∉ name.toList) (hn : NamesJson name) :
      IsJsonType (some (left ++ (name ++ (right ++ parameters))))

theorem isJson_mediaType_some (contentType : String) :
    isJson (mediaType (some contentType)) = true ↔
      (nameOf contentType).toList = "application/json".toList ∨
        "+json".toList <:+ (nameOf contentType).toList := by
  rw [mediaType, isJson, ← nameOf, nameOf_beforeParameters, Bool.or_eq_true, beq_iff_eq,
    List.isSuffixOf_iff_suffix]

theorem NamesJson.nameOf {name : String} (h : NamesJson name) (plain : ';' ∉ name.toList) :
    (nameOf name).toList = "application/json".toList ∨
      "+json".toList <:+ (Http.nameOf name).toList := by
  cases h with
  | plain h =>
    rw [nameOf_congr h]
    exact .inl (by decide)
  | @suffix start suffix h =>
    right
    have hletters : sameLetters (start ++ suffix) (start ++ "+json") = true := by
      rw [sameLetters_iff, lowered, lowered, String.ofList_inj] at h ⊢
      rw [String.toList_append, String.toList_append, List.map_append, List.map_append, h]
    have hstart : ∀ c ∈ start.toList, decide (c ≠ ';') = true := by
      rintro c hc
      refine decide_eq_true ?_
      rintro rfl
      exact plain (by rw [String.toList_append]; exact List.mem_append_left _ hc)
    have hfront : front (start ++ "+json").toList = start.toList ++ "+json".toList := by
      rw [front, String.toList_append, List.takeWhile_append_of_pos hstart]
      rfl
    rw [nameOf_congr hletters, toList_nameOf, hfront]
    have htrimmed : Text.IsTrimmed "+json".toList := by
      constructor
      · rintro c ⟨⟩
        decide
      · rintro c ⟨⟩
        decide
    exact (Text.suffix_trim_append htrimmed (by decide) _).map Char.toLower

theorem exists_namesJson {contentType : String}
    (h : (nameOf contentType).toList = "application/json".toList ∨
      "+json".toList <:+ (nameOf contentType).toList) :
    NamesJson (trimmed (beforeParameters contentType)) := by
  rcases h with h | ⟨start, hs⟩
  · refine .plain (sameLetters_iff.2 ?_)
    rw [← nameOf, ← String.toList_inj, h]
    rfl
  · have hname : (nameOf contentType).toList =
        (trimmed (beforeParameters contentType)).toList.map Char.toLower := String.toList_ofList
    obtain ⟨front, suffix, he, -, hsuffix⟩ := List.map_eq_append_iff.1 (hname.symm.trans hs.symm)
    rw [← String.ofList_toList (s := trimmed _), he, String.ofList_append]
    refine .suffix (sameLetters_iff.2 ?_)
    rw [lowered, String.toList_ofList, hsuffix]
    decide

/-- A content type is a name with blanks around it and parameters behind it. -/
theorem exists_around_name (contentType : String) :
    ∃ left right parameters, isBlankString left = true ∧ isBlankString right = true ∧
      (∀ c ∈ parameters.toList.head?, c = ';') ∧
      contentType = left ++ (trimmed (beforeParameters contentType) ++ (right ++ parameters)) := by
  obtain ⟨left, right, hl, hr, he⟩ := Text.exists_around_trim (front contentType.toList)
  refine ⟨String.ofList left, String.ofList right,
    String.ofList (contentType.toList.dropWhile (· ≠ ';')), ?_, ?_, ?_, ?_⟩
  · rwa [isBlankString, String.toList_ofList]
  · rwa [isBlankString, String.toList_ofList]
  · rw [String.toList_ofList]
    intro c hc
    have hnot := List.head?_dropWhile_not (· ≠ ';') contentType.toList
    rw [Option.mem_def] at hc
    rw [hc] at hnot
    simpa using hnot
  · have hwhole : front contentType.toList ++ contentType.toList.dropWhile (· ≠ ';') =
        contentType.toList := List.takeWhile_append_dropWhile
    rw [he, List.append_assoc, List.append_assoc] at hwhole
    rw [← String.toList_inj]
    simp only [String.toList_append, String.toList_ofList, trimmed, beforeParameters]
    exact hwhole.symm

theorem semicolon_not_mem (contentType : String) :
    ';' ∉ (trimmed (beforeParameters contentType)).toList := by
  intro h
  rw [trimmed, beforeParameters, String.toList_ofList, String.toList_ofList] at h
  have hne := List.mem_takeWhile_imp (Text.trim_subset _ h)
  simp at hne

/-- **Content types of JSON** are those with a name of JSON. -/
theorem isJson_mediaType_iff {contentType : Option String} :
    isJson (mediaType contentType) = true ↔ IsJsonType contentType := by
  cases contentType with
  | none =>
    have hplain : isJson (mediaType none) = false := by decide
    refine ⟨fun h => ?_, fun h => (by cases h)⟩
    rw [hplain] at h
    cases h
  | some s =>
    rw [isJson_mediaType_some]
    constructor
    · intro h
      obtain ⟨left, right, parameters, hl, hr, hp, hs⟩ := exists_around_name s
      rw [hs]
      exact .named hl hr hp (semicolon_not_mem s) (exists_namesJson h)
    · rintro ⟨hl, hr, hp, plain, hn⟩
      rw [nameOf_around hl hr hp (sameLetters_refl _)]
      exact hn.nameOf plain

/-- **Neither parameters, nor blanks, nor the case of letters change the verdict.** -/
theorem isJson_around {left name name' right parameters : String}
    (hl : isBlankString left = true) (hr : isBlankString right = true)
    (hp : ∀ c ∈ parameters.toList.head?, c = ';') (hn : sameLetters name name' = true) :
    isJson (mediaType (some (left ++ (name' ++ (right ++ parameters))))) =
      isJson (mediaType (some name)) := by
  rw [Bool.eq_iff_iff, isJson_mediaType_some, isJson_mediaType_some, nameOf_around hl hr hp hn]

end Http

end Pacts
