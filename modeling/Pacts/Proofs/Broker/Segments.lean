import Pacts.Proofs.Broker.Endpoints
import Pacts.Proofs.Broker.Search
import Pacts.Proofs.Broker.Templates

/-!
# The names in the path of a listing

The link to a listing has a field for the name of the provider and may have one for the tag.  Either
is filled with an encoded name and stands between two slashes, so that one would expect the name to
be a segment of the path, whatever it is.  The base of a client is a URL that arises
(`Endpoint.arises_url`), as the statements below ask.

* `fillTemplate_listing`: the link is filled with segments, of which the names are the third and the
  fifth.
* `listing_segments`: the URL of the listing has the path that these segments come to.  They come to
  themselves when no name is `.` or `..`; these two are not encoded, and they are taken for steps in
  the path.
* `listing_segment_lost`: such a name takes away the segment in front of it.
-/

set_option autoImplicit false

namespace Pacts

namespace Client

open Links (Part fillTemplate encodeName)

/-! ## The link -/

/-- A name as a segment of a path. -/
def nameSegment (name : String) : String := String.ofList (encodeName name.toList)

/-- The link to a listing, with a field for the tag if there is one. -/
def listingTemplate : Option String → String
  | none => "/pacts/provider/{provider}/latest"
  | some _ => "/pacts/provider/{provider}/latest/{tag}"

/-- The segments that are meant by the link. -/
def listingSegments (provider : String) (tag : Option String) : List String :=
  ["pacts", "provider", nameSegment provider, "latest"] ++ tag.toList.map nameSegment

theorem forall_mem_listingSegments_iff {p : String → Prop} {provider : String}
    {tag : Option String} :
    (∀ s ∈ listingSegments provider tag, p s) ↔
      (p "pacts" ∧ p "provider" ∧ p "latest") ∧
        ∀ name ∈ provider :: tag.toList, p (nameSegment name) := by
  have hfront : (∀ s ∈ ["pacts", "provider", nameSegment provider, "latest"], p s) ↔
      (p "pacts" ∧ p "provider" ∧ p "latest") ∧ p (nameSegment provider) := by
    rw [List.forall_mem_cons, List.forall_mem_cons, List.forall_mem_cons, List.forall_mem_singleton,
      and_assoc, and_assoc, @and_comm (p "latest")]
  rw [listingSegments, List.forall_mem_append, List.forall_mem_map, hfront, and_assoc,
    List.forall_mem_cons]

/-- The link in its parts. -/
def listingParts : Option String → List Part
  | none =>
    [.text "/pacts/provider/".toList (by decide), .field "provider" (by decide),
      .text "/latest".toList (by decide)]
  | some _ =>
    [.text "/pacts/provider/".toList (by decide), .field "provider" (by decide),
      .text "/latest/".toList (by decide), .field "tag" (by decide)]

theorem flatMap_written_listingParts (tag : Option String) :
    (listingParts tag).flatMap Part.written = (listingTemplate tag).toList := by
  cases tag <;>
    simp [listingParts, Part.written, Links.fieldText, listingTemplate]

theorem braceless_of_mem_listingParams {provider : String} {tag : Option String}
    {param : String × String} (h : param ∈ listingParams provider tag) :
    Links.Braceless param.1.toList := by
  have hkey : param.1 = "provider" ∨ param.1 = "tag" := by
    cases tag with
    | none => exact .inl (by rw [List.mem_singleton.1 h])
    | some tag => rcases List.mem_pair.1 h with rfl | rfl <;> simp
  rcases hkey with hkey | hkey <;>
  · rw [hkey]
    decide

variable {provider : String} {tag shown : Option String}

theorem flatMap_filled_listingParts {params : List (String × String)}
    (hprovider : params.lookup "provider" = some provider)
    (hshown : ∀ t ∈ shown, params.lookup "tag" = some t) :
    (listingParts shown).flatMap (Part.filled params) =
      '/' :: ['/'].intercalate ((listingSegments provider shown).map String.toList) := by
  cases shown with
  | none => simp [listingParts, Part.filled, hprovider, listingSegments, nameSegment]
  | some t =>
    simp [listingParts, Part.filled, hprovider, hshown t rfl, listingSegments, nameSegment]

theorem lookup_tag_listingParams {t : String} (h : t ∈ tag) :
    (listingParams provider tag).lookup "tag" = some t := by
  rw [Option.mem_def.1 h]
  rfl

/-- **The link is filled with segments.**  It need not show the tag. -/
theorem fillTemplate_listing (h : shown = none ∨ shown = tag) :
    fillTemplate (listingTemplate shown) (listingParams provider tag) =
      "/" ++ "/".intercalate (listingSegments provider shown) := by
  have hprovider : (listingParams provider tag).lookup "provider" = some provider := by
    cases tag <;> exact List.lookup_cons_self
  have hshown : ∀ t ∈ shown, (listingParams provider tag).lookup "tag" = some t := by
    rintro t ht
    rcases h with rfl | rfl
    · cases ht
    · exact lookup_tag_listingParams ht
  rw [fillTemplate, ← flatMap_written_listingParts,
    Links.foldl_fillField_written fun p hp => braceless_of_mem_listingParams hp,
    flatMap_filled_listingParts hprovider hshown, ← String.toList_inj, String.toList_ofList,
    String.toList_append, String.toList_intercalate]
  rfl

/-! ## The path -/

theorem isSegmentChar_of_isNameChar {c : Char} (h : Links.isNameChar c = true) :
    Url.isSegmentChar c = true := by
  rcases Bool.or_eq_true_iff.1 h with h | h
  · exact Links.forall_plainInName (by decide) h
  · rw [beq_iff_eq.1 h]
    rfl

theorem isSegmentChar_of_mem_listingSegments :
    ∀ segment ∈ listingSegments provider shown, ∀ c ∈ segment.toList,
      Url.isSegmentChar c = true := by
  refine forall_mem_listingSegments_iff.2 ⟨⟨?_, ?_, ?_⟩, fun name _ c hc => ?_⟩
  iterate 3 exact List.all_eq_true.1 (by decide)
  rw [nameSegment, String.toList_ofList] at hc
  exact isSegmentChar_of_isNameChar (Links.isNameChar_of_mem_encodeName hc)

/-- Where the link leads to. -/
def listingAt (base : Url) (provider : String) (shown : Option String) : Url :=
  { base with
    path := .segments (Url.addSegments false [] (listingSegments provider shown)), query := none,
    fragment := none }

theorem resolve_listing {base : Url} (hb : base.Arises)
    (hweb : base.scheme = "http" ∨ base.scheme = "https") :
    Url.resolve base ("/" ++ "/".intercalate (listingSegments provider shown)) =
      .ok (listingAt base provider shown) := by
  have hspecial : Url.isSpecial base.scheme = true := by
    rcases hweb with h | h <;>
    · rw [h]
      decide
  have hfile : base.scheme ≠ Url.fileScheme := by
    rcases hweb with h | h <;>
    · rw [h]
      decide
  obtain ⟨names, hpath⟩ := hb.hasSegments hspecial
  exact Url.resolve_rooted hpath hfile (by decide) isSegmentChar_of_mem_listingSegments

theorem nameSegment_not_dots_iff {name : String} :
    Url.isDotSegment (nameSegment name) = false ↔ name ≠ "." ∧ name ≠ ".." := by
  rw [nameSegment, ← Bool.not_eq_true, Links.isDotSegment_encodeName_iff, not_or]

theorem path_listingAt_iff {base : Url} :
    (listingAt base provider shown).path = .segments (listingSegments provider shown) ↔
      ∀ name ∈ provider :: shown.toList, name ≠ "." ∧ name ≠ ".." := by
  rw [listingAt, Url.Path.segments.injEq, Url.addSegments_eq_self_iff,
    forall_mem_listingSegments_iff, and_iff_right (by decide)]
  simp only [nameSegment_not_dots_iff]

/-! ## The requests -/

variable {σ : Type} {answer : σ → Request → Reply × σ} {state : σ} {c : Client}

theorem run_get (url : Url) :
    (c.get url).run answer state =
      ((answer state (c.requestFor url)).1.toExcept url.text, [c.requestFor url],
        (answer state (c.requestFor url)).2) := rfl

/-- What is made of a listing takes no more requests. -/
theorem requests_consumers (rel : String) (params : List (String × String)) :
    ((c.consumers rel params).run answer state).2.1 =
      ((c.listing rel params).run answer state).2.1 := by
  rw [consumers, Session.run_bind]
  dsimp only
  split <;> simp

theorem requests_listed {root : Json} {u : Url}
    (hu : Links.follow c.baseUrl root (listingRel tag) (listingParams provider tag) = .ok u)
    (hroot : (answer state (c.requestFor c.baseUrl)).1 = .document root) :
    ((c.listed provider tag).run answer state).2.1 =
      [c.requestFor c.baseUrl, c.requestFor u] := by
  have hlink : (c.linkUrl (listingRel tag) (listingParams provider tag)).run answer state =
      (.ok u, [c.requestFor c.baseUrl], (answer state (c.requestFor c.baseUrl)).2) := by
    rw [linkUrl, Session.run_bind, run_get, hroot]
    simp [Reply.toExcept, hu]
  rw [listed, requests_consumers, listing, Session.run_bind, hlink]
  simp only [Session.run_bind, run_get]
  cases (answer (answer state (c.requestFor c.baseUrl)).2 (c.requestFor u)).1.toExcept u.text <;>
    rfl

/-! ## Listings -/

/-- The link to a listing, on its own in a document. -/
def linking (rel : String) (tag : Option String) : Json :=
  .obj [(Links.member,
    .obj [(rel, .obj [("href", .str (listingTemplate tag)), ("templated", .bool true)])])]

theorem href_linking (rel : String) (tag : Option String) :
    Links.href (linking rel tag) rel = .ok (listingTemplate tag, true) := by
  simp [Links.href, linking, Json.get?, Json.lookupMember, Json.str?, Json.bool?]

theorem follow_listing {base : Url} (hb : base.Arises)
    (hweb : base.scheme = "http" ∨ base.scheme = "https") (hshown : shown = none ∨ shown = tag)
    {root : Json} {rel : String}
    (hlink : Links.href root rel = .ok (listingTemplate shown, true)) :
    Links.follow base root rel (listingParams provider tag) =
      .ok (listingAt base provider shown) := by
  rw [Links.follow, hlink]
  simp only [if_true, fillTemplate_listing hshown, resolve_listing hb hweb]

/-- **The path of a listing.**  The URL of a listing has the host and the port of the broker and
neither a query nor a fragment.  Its path is what the filled segments come to, and each name is a
segment of its own if and only if no name is one of dots.  This URL is the one that is asked for. -/
theorem listing_segments (c : Client) (provider : String) (tag shown : Option String) (root : Json)
    (rel : String) (hb : c.baseUrl.Arises)
    (hweb : c.baseUrl.scheme = "http" ∨ c.baseUrl.scheme = "https")
    (hshown : shown = none ∨ shown = tag)
    (hlink : Links.href root rel = .ok (listingTemplate shown, true)) :
    ∃ u, Links.follow c.baseUrl root rel (listingParams provider tag) = .ok u ∧
      u = { c.baseUrl with
        path := .segments (Url.addSegments false [] (listingSegments provider shown)),
        query := none, fragment := none } ∧
      (u.path = .segments (listingSegments provider shown) ↔
        ∀ name ∈ provider :: shown.toList, name ≠ "." ∧ name ≠ "..") ∧
      (rel = listingRel tag → ∀ (σ : Type) (answer : σ → Request → Reply × σ) (state : σ),
        (answer state (c.requestFor c.baseUrl)).1 = .document root →
        ((c.listed provider tag).run answer state).2.1 =
          [c.requestFor c.baseUrl, c.requestFor u]) := by
  have hfollow : Links.follow c.baseUrl root rel (listingParams provider tag) =
      .ok (listingAt c.baseUrl provider shown) := follow_listing hb hweb hshown hlink
  refine ⟨_, hfollow, rfl, path_listingAt_iff, ?_⟩
  rintro rfl σ answer state hroot
  exact requests_listed hfollow hroot

/-- Slashes and question marks stay in their segment, and so does the empty name. -/
theorem listing_segments_of_slashes :
    let base : Url :=
      { scheme := "https", username := "", password := none, host := some "pb.local",
        port := some 9292, path := .segments ["sub", ""], query := some "q", fragment := none }
    let c : Client := ⟨base, .anonymous⟩
    let tag := some ""
    Url.parse "https://pb.local:9292/sub/?q" = .ok base ∧
      Links.href (linking taggedRel tag) taggedRel = .ok (listingTemplate tag, true) ∧
      ∃ u, Links.follow base (linking taggedRel tag) taggedRel (listingParams "../a?%2e" tag) =
          .ok u ∧
        u.text = "https://pb.local:9292/pacts/provider/..%2Fa%3F%252e/latest/" ∧
        ((c.listed "../a?%2e" tag).run
          (fun _ _ => (.document (linking taggedRel tag), ())) ()).2.1 =
            [c.requestFor base, c.requestFor u] := by
  intro base c tag
  have hparse : Url.parse "https://pb.local:9292/sub/?q" = .ok base := by decide +kernel
  have hlink := href_linking taggedRel tag
  obtain ⟨u, hfollow, hu, hpath, hrequests⟩ :=
    listing_segments c "../a?%2e" tag tag _ taggedRel (.parsed hparse) (.inr rfl) (.inr rfl) hlink
  refine ⟨hparse, hlink, u, hfollow, ?_, hrequests rfl Unit _ () rfl⟩
  rw [hu]
  decide +kernel

/-- **A name of two dots does not stay in its segment**: it takes away the one in front of it. -/
theorem listing_segment_lost :
    let base : Url :=
      { scheme := "http", username := "", password := none, host := some "pb.local",
        port := some 9292, path := .segments [""], query := none, fragment := none }
    let tag := some "prod"
    Url.parse "http://pb.local:9292/" = .ok base ∧
      Links.href (linking taggedRel tag) taggedRel = .ok (listingTemplate tag, true) ∧
      ∃ u, Links.follow base (linking taggedRel tag) taggedRel (listingParams ".." tag) = .ok u ∧
        u.path = .segments ["pacts", "latest", "prod"] ∧
        u.path ≠ .segments (listingSegments ".." tag) := by
  intro base tag
  have hparse : Url.parse "http://pb.local:9292/" = .ok base := by decide +kernel
  have hlink := href_linking taggedRel tag
  refine ⟨hparse, hlink, _, follow_listing (.parsed hparse) (.inl rfl) (.inr rfl) hlink, ?_, ?_⟩
  · decide +kernel
  · rw [Ne, path_listingAt_iff]
    decide

end Client

end Pacts
