import Mathlib.Algebra.Order.BigOperators.Group.List
import Pacts.Proofs.Broker.Templates
import Pacts.Proofs.Text.Decoding

/-!
# Names are told apart

What a broker is asked for is a template in which names have been filled in.  If two names came to
the same text, one provider would be answered for the other.  That a name can be read back once it
is encoded is one half of what keeps them apart.  The other half is about the template: a field may
stand in it several times, and beside it there may be text that looks as if it were encoded, so it
is not obvious where a filled field ends.

It need not be known.  Of two names, either one is encoded to a longer text than the other, and then
it makes the whole text longer at every place of the field; or both are encoded to texts of the same
length, and then their places are the same.

* `Spelled` — the alphabet of encoded names.
* `percentDecode_encodeName` and `encodeName_injective` — a name can be read back.
* `eq_of_flatMap_eq` — the argument about lengths.
* `names_told_apart` — different names fill a template differently.
-/

set_option autoImplicit false

namespace Pacts

namespace Links

/-! ## How names are spelled -/

/-- The digits that bytes are written with. -/
def capitalDigits : List Char := "0123456789ABCDEF".toList

/-- A text of letters and digits of ASCII, of four marks, and of bytes that are written as `%` with
two digits. -/
inductive Spelled : List Char → Prop
  | nil : Spelled []
  | plain {c : Char} {cs : List Char} (h : c.isAlphanum = true ∨ c ∈ ['-', '.', '_', '~'])
      (rest : Spelled cs) : Spelled (c :: cs)
  | byte {high low : Char} {cs : List Char} (hhigh : high ∈ capitalDigits)
      (hlow : low ∈ capitalDigits) (rest : Spelled cs) : Spelled ('%' :: high :: low :: cs)

theorem mem_capitalDigits_hexDigit : ∀ n < 16, Text.hexDigit n ∈ capitalDigits := by decide

theorem spelled_bytes {cs : List Char} (bytes : List UInt8) (rest : Spelled cs) :
    Spelled (bytes.flatMap Text.percentByte ++ cs) := by
  induction bytes with
  | nil => exact rest
  | cons b bytes ih =>
    have hb : b.toNat < 256 := b.toNat_lt
    exact .byte (mem_capitalDigits_hexDigit _ (by omega)) (mem_capitalDigits_hexDigit _ (by omega))
      ih

theorem spelled_encodeName (name : List Char) : Spelled (encodeName name) := by
  induction name with
  | nil => exact .nil
  | cons c cs ih =>
    have hcons : encodeName (c :: cs) = Text.percentChar plainInName c ++ encodeName cs := rfl
    rw [hcons, Text.percentChar]
    split
    · rename_i hc
      refine .plain ?_ ih
      simpa [plainInName, or_assoc] using hc
    · exact spelled_bytes _ ih

/-! ## Reading names back -/

theorem ne_percent_of_plainInName {c : Char} (h : plainInName c = true) : c ≠ '%' := by
  rintro rfl
  revert h
  decide

theorem percentDecode_encodeName (name : List Char) :
    Text.percentDecode (Text.utf8 (encodeName name)) = Text.utf8 name :=
  Text.percentDecode_percentEncode
    (fun _ h => ⟨toNat_lt_of_plainInName h, ne_percent_of_plainInName h⟩) name

theorem encodeName_injective : Function.Injective encodeName := by
  intro a b h
  have hread := percentDecode_encodeName a
  rw [h, percentDecode_encodeName b] at hread
  exact (Text.utf8_injective hread).symm

/-! ## One field in a row of texts -/

section Rows

variable {α β : Type} {f g : α → List β} {u w : List β} {l : List α}

/-- A row of texts is longer when some of them are longer and none is shorter. -/
theorem length_flatMap_lt (hle : ∀ x ∈ l, (f x).length ≤ (g x).length)
    (hlt : ∃ x ∈ l, (f x).length < (g x).length) :
    (l.flatMap f).length < (l.flatMap g).length := by
  rw [List.length_flatMap, List.length_flatMap]
  exact List.sum_lt_sum _ _ hle hlt

/-- A longer text in some places of a row makes the row longer. -/
theorem length_flatMap_lt_of_place (hplace : ∀ x ∈ l, f x = u ∧ g x = w ∨ f x = g x)
    (hsome : ∃ x ∈ l, f x = u ∧ g x = w) (h : u.length < w.length) :
    (l.flatMap f).length < (l.flatMap g).length := by
  refine length_flatMap_lt (fun x hx => ?_) ?_
  · rcases hplace x hx with ⟨hf, hg⟩ | he
    · rw [hf, hg]
      exact h.le
    · rw [he]
  · obtain ⟨x, hx, hf, hg⟩ := hsome
    exact ⟨x, hx, by rwa [hf, hg]⟩

/-- **A text that stands in some places of a row is seen from the row.** -/
theorem eq_of_flatMap_eq (hplace : ∀ x ∈ l, f x = u ∧ g x = w ∨ f x = g x)
    (hsome : ∃ x ∈ l, f x = u ∧ g x = w) (h : l.flatMap f = l.flatMap g) : u = w := by
  have hlength := congrArg List.length h
  rcases Nat.lt_trichotomy u.length w.length with hlt | heq | hgt
  · exact absurd hlength (length_flatMap_lt_of_place hplace hsome hlt).ne
  · -- the texts of the row have the same lengths in both rows, so they are the same
    have hlengths : (l.map f).map List.length = (l.map g).map List.length := by
      rw [List.map_map, List.map_map]
      refine List.map_congr_left fun x hx => ?_
      rcases hplace x hx with ⟨hf, hg⟩ | he
      · simp only [Function.comp, hf, hg, heq]
      · simp only [Function.comp, he]
    rw [List.flatMap_def, List.flatMap_def] at h
    have heach := List.map_inj_left.1 (List.eq_iff_flatten_eq.2 ⟨h, hlengths⟩)
    obtain ⟨x, hx, hf, hg⟩ := hsome
    rw [← hf, ← hg, heach x hx]
  · have hplace' : ∀ x ∈ l, g x = w ∧ f x = u ∨ g x = f x := fun x hx =>
      (hplace x hx).imp And.symm Eq.symm
    have hsome' : ∃ x ∈ l, g x = w ∧ f x = u := hsome.imp fun _ hx => ⟨hx.1, hx.2.symm⟩
    exact absurd hlength.symm (length_flatMap_lt_of_place hplace' hsome' hgt).ne

end Rows

/-! ## One parameter that varies -/

section Parameters

variable {front back : List (String × String)} {key : String}

theorem lookup_of_key (h : key ∉ front.map (·.1)) (value : String) :
    (front ++ (key, value) :: back).lookup key = some value := by
  have hfront : front.lookup key = none := by
    rw [List.lookup_eq_none_iff]
    intro p hp
    exact bne_iff_ne.2 fun he => h (List.mem_map.2 ⟨p, hp, he.symm⟩)
  rw [List.lookup_append, hfront, Option.none_or, List.lookup_cons_self]

theorem lookup_of_ne {name : String} (h : name ≠ key) (value value' : String) :
    (front ++ (key, value) :: back).lookup name = (front ++ (key, value') :: back).lookup name := by
  rw [List.lookup_append, List.lookup_append, List.lookup_cons, List.lookup_cons,
    beq_eq_false_iff_ne.2 h]

/-- The field of the parameter is filled with its value. -/
theorem Part.filled_of_key (h : key ∉ front.map (·.1)) (plain : Braceless key.toList)
    (value : String) :
    (Part.field key plain).filled (front ++ (key, value) :: back) = encodeName value.toList := by
  rw [Part.filled, lookup_of_key h]

/-- A part of a template is the field of the parameter, or the value does not matter. -/
theorem Part.filled_or (h : key ∉ front.map (·.1)) (value value' : String) (part : Part) :
    part.filled (front ++ (key, value) :: back) = encodeName value.toList ∧
        part.filled (front ++ (key, value') :: back) = encodeName value'.toList ∨
      part.filled (front ++ (key, value) :: back) =
        part.filled (front ++ (key, value') :: back) := by
  cases part with
  | text cs plain => exact .inr rfl
  | field name plain =>
    by_cases hname : name = key
    · subst hname
      exact .inl ⟨filled_of_key h plain value, filled_of_key h plain value'⟩
    · exact .inr (by rw [Part.filled, Part.filled, lookup_of_ne hname value value'])

end Parameters

/-- **Names are told apart.**  An encoded name is spelled with letters, digits, marks and bytes, and
these can be read back: they are the bytes of the name.  So when a template has a field and its
parameter varies, while the other parameters stay as they are, different values make different
texts, whatever they are and however often the field is there. -/
theorem names_told_apart :
    (∀ name : String, Spelled (encodeName name.toList) ∧
      Text.percentDecode (Text.utf8 (encodeName name.toList)) = Text.utf8 name.toList) ∧
    ∀ (parts : List Part) (front back : List (String × String)) (key : String),
      (∃ plain, Part.field key plain ∈ parts) →
      (front.map (·.1) ++ key :: back.map (·.1)).Nodup →
      (∀ name ∈ front.map (·.1) ++ key :: back.map (·.1), Braceless name.toList) →
      ∀ value value' : String,
        fillTemplate (template parts) (front ++ (key, value) :: back) =
            fillTemplate (template parts) (front ++ (key, value') :: back) ↔
          value = value' := by
  refine ⟨fun name => ⟨spelled_encodeName _, percentDecode_encodeName _⟩, ?_⟩
  rintro parts front back key ⟨plain, hfield⟩ hdistinct hkeys value value'
  have hkey : key ∉ front.map (·.1) := fun hm =>
    (List.nodup_append.1 hdistinct).2.2 key hm key List.mem_cons_self rfl
  have hbraceless : ∀ v : String, ∀ p ∈ front ++ (key, v) :: back, Braceless p.1.toList := by
    intro v p hp
    refine hkeys p.1 ?_
    have hm := List.mem_map_of_mem (f := (·.1)) hp
    rwa [List.map_append, List.map_cons] at hm
  constructor
  · intro h
    rw [fillTemplate, fillTemplate, String.ofList_inj, template, String.toList_ofList,
      foldl_fillField_written (hbraceless value), foldl_fillField_written (hbraceless value')] at h
    have hencoded : encodeName value.toList = encodeName value'.toList :=
      eq_of_flatMap_eq (fun part _ => part.filled_or hkey value value')
        ⟨_, hfield, Part.filled_of_key hkey plain value, Part.filled_of_key hkey plain value'⟩ h
    exact String.toList_inj.1 (encodeName_injective hencoded)
  · rintro rfl
    rfl

/-- A field that stands in the template twice, beside text that looks like an encoded slash. -/
theorem names_told_apart_beside_escapes :
    let parts : List Part := [.field "a" (by decide), .text "%2F".toList (by decide),
      .field "a" (by decide), .field "b" (by decide)]
    (∃ plain, Part.field "a" plain ∈ parts) ∧ (["b"] ++ "a" :: []).Nodup ∧
      (∀ name ∈ ["b"] ++ "a" :: [], Braceless name.toList) ∧
      fillTemplate (template parts) [("b", "é"), ("a", "/")] = "%2F%2F%2F%C3%A9" ∧
      fillTemplate (template parts) [("b", "é"), ("a", "/")] ≠
        fillTemplate (template parts) [("b", "é"), ("a", "//")] := by
  intro parts
  have hfield : ∃ plain, Part.field "a" plain ∈ parts := ⟨by decide, List.mem_cons_self⟩
  have hdistinct : (["b"] ++ "a" :: []).Nodup := by decide
  have hkeys : ∀ name ∈ ["b"] ++ "a" :: [], Braceless name.toList := by decide
  refine ⟨hfield, hdistinct, hkeys, by decide +kernel, ?_⟩
  have happart := names_told_apart.2 parts [("b", "é")] [] "a" hfield hdistinct hkeys "/" "//"
  exact fun h => absurd (happart.1 h) (by decide)

end Links

end Pacts
