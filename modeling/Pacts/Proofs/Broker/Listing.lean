import Pacts.Broker.Client
import Pacts.Proofs.Results

/-!
# What a listing holds

`Client.readListing` reads the entries of a listing one after the other and stops at the first that
is none.  When it does not stop, what it returns are the entries, each read by itself and in the
order of the document; when it stops, it says what is wrong with that entry.  This file says so, and
takes a single entry apart.

* `Json.Says` — a member of an entry is a text that is not blank.
* `Client.Complete` — an entry says who the consumer is and where its pact is, and
  `Client.EntryFault`, what is wrong with an entry that does not, in the order in which it is looked
  for.  `Client.exists_entryFault_iff`: an entry is one or the other.
* `Client.readEntry_eq_ok_iff`, `Client.readEntry_eq_error_iff` — an entry.
* `Client.readListing_eq_ok_iff`, `Client.readListing_eq_error_iff` — a listing.
-/

set_option autoImplicit false

namespace Pacts

/-- A member of a value is a text that is not blank. -/
def Json.Says (v : Json) (key text : String) : Prop :=
  v.get? key = some (.str text) ∧ isBlankString text = false

theorem Json.bind_str?_eq_some_iff {member : Option Json} {text : String} :
    member.bind str? = some text ↔ member = some (.str text) := by
  simp [Option.bind_eq_some_iff, str?_eq_some_iff]

namespace Client

variable {base listing : Url}

/-! ## The members of an entry -/

theorem entryField_eq_ok_iff (listing : Url) {entry : Json} {key text : String} :
    entryField listing entry key = .ok text ↔ entry.Says key text := by
  rw [entryField, Json.Says, ← Json.bind_str?_eq_some_iff]
  cases (entry.get? key).bind Json.str? with
  | none => simp [entryField.missing]
  | some found =>
    by_cases hb : isBlankString found = true
    · simp only [if_pos hb, entryField.missing]
      refine ⟨?_, ?_⟩
      · rintro ⟨⟩
      · rintro ⟨⟨⟩, hn⟩
        simp [hb] at hn
    · simp only [if_neg hb]
      refine ⟨?_, ?_⟩
      · rintro ⟨⟩
        exact ⟨rfl, Bool.eq_false_iff.2 hb⟩
      · rintro ⟨⟨⟩, -⟩
        rfl

theorem entryField_eq_error_iff {entry : Json} {key : String} {e : BrokerError} :
    entryField listing entry key = .error e ↔
      (∀ text, ¬ entry.Says key text) ∧
        e = .invalidHal listing.text ("pact link without " ++ key ++ ": " ++ entry.compact) := by
  simp only [← entryField_eq_ok_iff listing]
  rw [entryField]
  cases (entry.get? key).bind Json.str? with
  | none => simp [entryField.missing, eq_comm]
  | some found =>
    by_cases hb : isBlankString found = true
    · simp [hb, entryField.missing, eq_comm]
    · simp [hb]

/-! ## Entries -/

/-- An entry says who the consumer is and where its pact is: it has a name and an `href`, neither of
which is blank, and the `href` leads somewhere from the broker's URL. -/
def Complete (base : Url) (entry : Json) : Prop :=
  (∃ name, entry.Says "name" name) ∧
    ∃ href, entry.Says "href" href ∧ ∃ url, Url.resolve base href = .ok url

/-- What is wrong with an entry: whatever comes first in the order of the constructors. -/
inductive EntryFault (base listing : Url) (entry : Json) : BrokerError → Prop
  | nameless (name : ∀ name, ¬ entry.Says "name" name) :
      EntryFault base listing entry
        (.invalidHal listing.text ("pact link without name: " ++ entry.compact))
  | placeless {name : String} (name : entry.Says "name" name)
      (href : ∀ href, ¬ entry.Says "href" href) :
      EntryFault base listing entry
        (.invalidHal listing.text ("pact link without href: " ++ entry.compact))
  | astray {name place : String} {defect : Url.Defect} (name : entry.Says "name" name)
      (href : entry.Says "href" place) (target : Url.resolve base place = .error defect) :
      EntryFault base listing entry (.invalidUrl place defect)

theorem readEntry_eq_ok_iff {entry : Json} {e : Listed} :
    readEntry base listing entry = .ok e ↔
      entry.Says "name" e.name ∧
        ∃ href url, entry.Says "href" href ∧ Url.resolve base href = .ok url ∧
          e.href = url.text := by
  obtain ⟨name, target⟩ := e
  rw [readEntry, bind_eq_ok_iff]
  simp only [entryField_eq_ok_iff, bind_eq_ok_iff]
  refine ⟨?_, ?_⟩
  · rintro ⟨name', hname, href, hhref, h⟩
    cases hr : Url.resolve base href with
    | error defect =>
      rw [hr] at h
      cases h
    | ok url =>
      rw [hr] at h
      cases h
      exact ⟨hname, href, url, hhref, hr, rfl⟩
  · rintro ⟨hname, href, url, hhref, hr, rfl⟩
    refine ⟨name, hname, href, hhref, ?_⟩
    rw [hr]
    rfl

theorem readEntry_eq_error_iff {entry : Json} {e : BrokerError} :
    readEntry base listing entry = .error e ↔ EntryFault base listing entry e := by
  rw [readEntry, bind_eq_error_iff]
  simp only [entryField_eq_ok_iff, entryField_eq_error_iff, bind_eq_error_iff]
  refine ⟨?_, ?_⟩
  · rintro (⟨hname, rfl⟩ | ⟨name, hname, ⟨hhref, rfl⟩ | ⟨href, hhref, h⟩⟩)
    · exact .nameless hname
    · exact .placeless hname hhref
    · cases hr : Url.resolve base href with
      | error defect =>
        rw [hr] at h
        cases h
        exact .astray hname hhref hr
      | ok url =>
        rw [hr] at h
        cases h
  · rintro (hname | ⟨hname, hhref⟩ | ⟨hname, hhref, hr⟩)
    · exact .inl ⟨hname, rfl⟩
    · exact .inr ⟨_, hname, .inl ⟨hhref, rfl⟩⟩
    · refine .inr ⟨_, hname, .inr ⟨_, hhref, ?_⟩⟩
      rw [hr]
      rfl

/-- The URL of an entry is the text of what its `href` leads to. -/
theorem readEntry_eq_ok {entry : Json} {e : Listed} (h : readEntry base listing entry = .ok e) :
    ∃ href url, (entry.get? "href").bind Json.str? = some href ∧
      Url.resolve base href = .ok url ∧ e.href = url.text := by
  obtain ⟨-, href, url, hhref, hr, htext⟩ := readEntry_eq_ok_iff.1 h
  exact ⟨href, url, Json.bind_str?_eq_some_iff.2 hhref.1, hr, htext⟩

/-- An entry can be read when it is complete. -/
theorem exists_readEntry_eq_ok_iff (listing : Url) {entry : Json} :
    (∃ e, readEntry base listing entry = .ok e) ↔ Complete base entry := by
  simp only [readEntry_eq_ok_iff]
  refine ⟨?_, ?_⟩
  · rintro ⟨e, hname, href, url, hhref, hr, -⟩
    exact ⟨⟨e.name, hname⟩, href, hhref, url, hr⟩
  · rintro ⟨⟨name, hname⟩, href, hhref, url, hr⟩
    exact ⟨⟨name, url.text⟩, hname, href, url, hhref, hr, rfl⟩

/-- Something is wrong with an entry when it is not complete. -/
theorem exists_entryFault_iff {entry : Json} :
    (∃ e, EntryFault base listing entry e) ↔ ¬ Complete base entry := by
  rw [← exists_readEntry_eq_ok_iff listing]
  simp only [← readEntry_eq_error_iff]
  cases readEntry base listing entry <;> simp

/-! ## Listings -/

theorem readListing_eq_ok_iff {doc : Json} {es : List Listed} :
    readListing base listing doc = .ok es ↔
      List.Forall₂ (fun entry e => readEntry base listing entry = .ok e)
        (Links.entries doc pactsRel) es :=
  mapM_eq_ok_iff

/-- A listing can be read when all its entries are complete. -/
theorem exists_readListing_eq_ok_iff (listing : Url) {doc : Json} :
    (∃ es, readListing base listing doc = .ok es) ↔
      ∀ entry ∈ Links.entries doc pactsRel, Complete base entry := by
  simp only [← exists_readEntry_eq_ok_iff listing]
  exact exists_mapM_eq_ok_iff

/-- What is wrong with a listing is what is wrong with the first entry that is not complete. -/
theorem readListing_eq_error_iff {doc : Json} {e : BrokerError} :
    readListing base listing doc = .error e ↔
      ∃ front entry back, Links.entries doc pactsRel = front ++ entry :: back ∧
        (∀ earlier ∈ front, Complete base earlier) ∧ EntryFault base listing entry e := by
  simp only [← exists_readEntry_eq_ok_iff listing, ← readEntry_eq_error_iff]
  exact mapM_eq_error_iff

/-- What is read from a listing stands in it. -/
theorem mem_readListing {doc : Json} {es : List Listed} (h : readListing base listing doc = .ok es)
    {e : Listed} (he : e ∈ es) :
    ∃ entry ∈ Links.entries doc pactsRel, readEntry base listing entry = .ok e := by
  replace h := readListing_eq_ok_iff.1 h
  generalize Links.entries doc pactsRel = entries at h ⊢
  induction h with
  | nil => cases he
  | cons hr _ ih =>
    rcases List.mem_cons.1 he with rfl | he
    · exact ⟨_, List.mem_cons_self, hr⟩
    · obtain ⟨entry, hm, hr'⟩ := ih he
      exact ⟨entry, List.mem_cons_of_mem _ hm, hr'⟩

end Client

end Pacts
