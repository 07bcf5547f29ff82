import ClassDocs.Library.Listing
import ClassDocs.Proofs.Entity
import ClassDocs.Proofs.Library.Catalogue

namespace ClassDocs

/-- A name begins with the letters of a family, where a small and a capital letter of ASCII count as
the same. -/
def InFamily (family name : String) : Prop :=
  ∃ start rest, name.toList = start ++ rest ∧ start.map Char.toLower = family.toList.map Char.toLower

/-- The error of the first of some keys under which no class is found. -/
def FirstFailure (reflect : Reflector) (keys : List String) (error : DocError) : Prop :=
  ∃ before key after, keys = before ++ key :: after ∧
    (∀ earlier ∈ before, ∃ outline, reflect earlier = .ok outline) ∧ reflect key = .error error

/-- The last of some keys under which a class of the given declared name is found, and that class. -/
def LastDeclaring (reflect : Reflector) (keys : List String) (name key : String) (outline : ClassOutline) : Prop :=
  ∃ before after, keys = before ++ key :: after ∧ reflect key = .ok outline ∧ outline.name = name ∧
    ∀ later ∈ after, ∀ other, reflect later = .ok other → other.name ≠ name

/-- Whether a class has a place in the listing. -/
def isListed (family : String) (outline : ClassOutline) : Bool :=
  !(lowercaseAscii family).toList.isPrefixOf (lowercaseAscii outline.name).toList

/-- The names of the methods of a class, in ascending order. -/
def sortedMethodNames (outline : ClassOutline) : List String :=
  (outline.methods.map (·.name)).mergeSort fun first second => decide (first ≤ second)

theorem isListed_iff {family : String} {outline : ClassOutline} :
    isListed family outline = true ↔ ¬ InFamily family outline.name := by
  rw [isListed, Bool.not_eq_true', Bool.eq_false_iff, ne_eq, List.isPrefixOf_iff_prefix, lowercaseAscii,
    lowercaseAscii, String.toList_map, String.toList_map]
  refine not_congr ?_
  constructor
  · rintro ⟨others, whole⟩
    obtain ⟨start, rest, letters, folded, _⟩ := List.map_eq_append_iff.mp whole.symm
    exact ⟨start, rest, letters, folded⟩
  · rintro ⟨start, rest, letters, folded⟩
    rw [letters, List.map_append, folded]
    exact List.prefix_append ..

section Names

variable (outline : ClassOutline)

theorem stablySorted_sortedMethodNames :
    StablySorted id (outline.methods.map (·.name)) (sortedMethodNames outline) :=
  stablySorted_mergeSort id _

/-- It makes no difference whether the names are taken from the methods before or after sorting. -/
theorem sortedMethodNames_eq : sortedMethodNames outline = (Entity.sortedMethods outline).map (·.name) := by
  symm
  exact List.map_mergeSort fun _ _ _ _ => rfl

variable {outline}

theorem Entity.methodNames_of_ofOutline {read : Entity.SourceReader} {context : CommentContext} {entity : Entity}
    (documented : Entity.ofOutline read context outline = .ok entity) :
    entity.methodNames = sortedMethodNames outline := by
  have ranges := Entity.ranges_of_documented (Entity.methods_of_ofOutline documented)
  have names := congrArg (List.map (·.1)) ranges
  rw [List.map_map, List.map_map] at names
  rw [sortedMethodNames_eq]
  exact names

end Names

section Last

variable {reflect : Reflector} {keys : List String} {name : String}

/-- Where some class declares a name, one of them is the last. -/
theorem exists_lastDeclaring
    (declared : ∃ key ∈ keys, ∃ outline, reflect key = .ok outline ∧ outline.name = name) :
    ∃ key outline, LastDeclaring reflect keys name key outline := by
  induction keys with
  | nil =>
    obtain ⟨key, member, _⟩ := declared
    cases member
  | cons first rest ih =>
    by_cases later : ∃ key ∈ rest, ∃ outline, reflect key = .ok outline ∧ outline.name = name
    · obtain ⟨key, outline, before, after, whole, found, named, none⟩ := ih later
      exact ⟨key, outline, first :: before, after, by rw [whole, List.cons_append], found, named, none⟩
    · obtain ⟨key, member, outline, found, named⟩ := declared
      rcases List.mem_cons.mp member with rfl | inRest
      · refine ⟨key, outline, [], rest, rfl, found, named, ?_⟩
        intro other inRest otherOutline otherFound same
        exact later ⟨other, inRest, otherOutline, otherFound, same⟩
      · exact absurd ⟨key, inRest, outline, found, named⟩ later

/-- The classes found under all keys, cut at the last one that declares a name. -/
theorem LastDeclaring.outlines {key : String} {outline : ClassOutline} {outlines : List ClassOutline}
    (last : LastDeclaring reflect keys name key outline) (found : keys.mapM reflect = .ok outlines) :
    ∃ before after, outlines = before ++ outline :: after ∧ ∀ later ∈ after, later.name ≠ name := by
  obtain ⟨_, after, rfl, atKey, _, none⟩ := last
  have each := mapM_eq_ok_iff.mp found
  rw [List.map_append, List.map_cons, atKey] at each
  obtain ⟨front, back, rfl, _, atBack⟩ := List.map_eq_append_iff.mp each.symm
  obtain ⟨other, behind, rfl, same, atBehind⟩ := List.map_eq_cons_iff.mp atBack
  cases same
  refine ⟨front, behind, rfl, fun later member => ?_⟩
  obtain ⟨laterKey, inAfter, atLater⟩ := (mem_iff_of_mapM_eq_ok (mapM_eq_ok_iff.mpr atBehind.symm)).mp member
  exact none laterKey inAfter later atLater

end Last

section Listing

variable {reflect : Reflector} {family : String} {classes : SortedMap String}

/-- The listing is made of the classes found under all keys, once they are all found. -/
theorem methodListing_eq_ok {listing : SortedMap (List String)}
    (listed : methodListing reflect family classes = .ok listing) :
    ∃ outlines, classes.values.mapM reflect = .ok outlines ∧
      listing = SortedMap.ofList ((outlines.filter (isListed family)).map fun outline =>
        (outline.name, sortedMethodNames outline)) := by
  obtain ⟨outlines, found, listed⟩ := bind_eq_ok_iff.mp listed
  cases listed
  exact ⟨outlines, found, rfl⟩

theorem methodListing_eq_error_iff {error : DocError} :
    methodListing reflect family classes = .error error ↔ FirstFailure reflect classes.values error := by
  rw [FirstFailure, ← mapM_eq_error_iff]
  unfold methodListing
  cases classes.values.mapM reflect with
  | ok outlines => exact iff_of_false (fun failed => (by cases failed)) (fun failed => (by cases failed))
  | error other =>
    constructor
    · intro failed
      cases failed
      rfl
    · intro failed
      cases failed
      rfl

theorem exists_firstFailure_iff {keys : List String} :
    (∃ error, FirstFailure reflect keys error) ↔ ∃ key ∈ keys, ∃ error, reflect key = .error error := by
  constructor
  · rintro ⟨error, before, key, after, rfl, _, failed⟩
    exact ⟨key, by simp, error, failed⟩
  · rintro ⟨key, member, error, failed⟩
    cases found : keys.mapM reflect with
    | error first => exact ⟨first, mapM_eq_error_iff.mp found⟩
    | ok outlines =>
      obtain ⟨outline, atKey⟩ := mapM_succeeds_iff.mp ⟨outlines, found⟩ key member
      cases atKey.symm.trans failed

variable {listing : SortedMap (List String)} {name : String}

theorem mem_keys_methodListing (listed : methodListing reflect family classes = .ok listing) :
    name ∈ listing.keys ↔ ¬ InFamily family name ∧
      ∃ key ∈ classes.values, ∃ outline, reflect key = .ok outline ∧ outline.name = name := by
  obtain ⟨outlines, found, rfl⟩ := methodListing_eq_ok listed
  rw [SortedMap.mem_keys_ofList, List.map_map, List.mem_map]
  constructor
  · rintro ⟨outline, member, rfl⟩
    obtain ⟨inOutlines, shown⟩ := List.mem_filter.mp member
    obtain ⟨key, inValues, atKey⟩ := (mem_iff_of_mapM_eq_ok found).mp inOutlines
    exact ⟨isListed_iff.mp shown, key, inValues, outline, atKey, rfl⟩
  · rintro ⟨outside, key, inValues, outline, atKey, rfl⟩
    have inOutlines := (mem_iff_of_mapM_eq_ok found).mpr ⟨key, inValues, atKey⟩
    exact ⟨outline, List.mem_filter.mpr ⟨inOutlines, isListed_iff.mpr outside⟩, rfl⟩

/-- Of the classes that declare a name the last one is listed. -/
theorem get?_methodListing (listed : methodListing reflect family classes = .ok listing)
    (outside : ¬ InFamily family name) {key : String} {outline : ClassOutline}
    (last : LastDeclaring reflect classes.values name key outline) :
    listing.get? name = some (sortedMethodNames outline) := by
  obtain ⟨outlines, found, rfl⟩ := methodListing_eq_ok listed
  obtain ⟨before, after, rfl, none⟩ := last.outlines found
  obtain ⟨_, _, _, _, rfl, _⟩ := last
  rw [List.filter_append, List.filter_cons_of_pos (isListed_iff.mpr outside), List.map_append, List.map_cons]
  refine SortedMap.get?_ofList_eq_some_iff.mpr ⟨_, _, rfl, fun entry member => ?_⟩
  obtain ⟨later, inAfter, rfl⟩ := List.mem_map.mp member
  exact none later (List.mem_of_mem_filter inAfter)

end Listing

/-- The listing of methods fails with the first class that is not found, whether it would be shown or
not. Otherwise it shows each declared name outside the family, with the methods of the last class that
declares it: they are the ones on the page of that class. -/
theorem method_listing_agrees_with_pages (reflect : Reflector) (family : String) (classes : SortedMap String) :
    ((∃ error, methodListing reflect family classes = .error error) ↔
      ∃ value ∈ classes.values, ∃ error, reflect value = .error error) ∧
    (∀ error, methodListing reflect family classes = .error error ↔
      FirstFailure reflect classes.values error) ∧
    ∀ listing, methodListing reflect family classes = .ok listing →
      (∀ name, name ∈ listing.keys ↔ ¬ InFamily family name ∧
        ∃ value ∈ classes.values, ∃ outline, reflect value = .ok outline ∧ outline.name = name) ∧
      ∀ name ∈ listing.keys,
        (∃ value outline, LastDeclaring reflect classes.values name value outline) ∧
        ∀ value outline, LastDeclaring reflect classes.values name value outline →
          ∃ methods, listing.get? name = some methods ∧ methods.Pairwise (· ≤ ·) ∧
            methods.Perm (outline.methods.map (·.name)) ∧
            ∀ read context entity, Entity.document reflect read context value = .ok entity →
              entity.methodNames = methods := by
  refine ⟨?_, fun error => methodListing_eq_error_iff, fun listing listed => ⟨fun name => ?_, fun name shown => ?_⟩⟩
  · simp only [methodListing_eq_error_iff, exists_firstFailure_iff]
  · exact mem_keys_methodListing listed
  · obtain ⟨outside, declared⟩ := (mem_keys_methodListing listed).mp shown
    refine ⟨exists_lastDeclaring declared, fun value outline last => ?_⟩
    have sorted := stablySorted_sortedMethodNames outline
    refine ⟨_, get?_methodListing listed outside last, sorted.ascending, sorted.perm, ?_⟩
    intro read context entity documented
    obtain ⟨_, _, _, found, _⟩ := last
    obtain ⟨other, again, documented⟩ := bind_eq_ok_iff.mp documented
    cases found.symm.trans again
    exact Entity.methodNames_of_ofOutline documented

/-- A class with two methods of the same name, from different files. -/
def secondTwin : ClassOutline :=
  ⟨"Twin", "b.php", none, some "KOHANA_Twin",
    [⟨"set", "b.php", none, 2, 2⟩, ⟨"get", "c.php", none, 4, 5⟩, ⟨"set", "c.php", none, 7, 7⟩]⟩

/-- Two files that declare the same class, and one of the family. -/
def twinClasses : Reflector := fun key =>
  if key = "a" then .ok ⟨"Twin", "a.php", none, none, [⟨"old", "a.php", none, 2, 2⟩]⟩
  else if key = "b" then .ok secondTwin
  else if key = "c" then .ok ⟨"KOHANA_Twin", "c.php", none, none, []⟩
  else .error (.unknownEntity key)

theorem method_listing_agrees_of_twinClasses :
    methodListing twinClasses "kohana" (identityMap ["c", "z", "y", "a"]) = .error (.unknownEntity "y") ∧
    ∃ listing, methodListing twinClasses "kohana" (identityMap ["c", "b", "a"]) = .ok listing ∧
      "Twin" ∈ listing.keys ∧ "KOHANA_Twin" ∉ listing.keys ∧
      ∃ methods, listing.get? "Twin" = some methods ∧ methods.Pairwise (· ≤ ·) ∧
        methods.Perm ["set", "get", "set"] ∧
        ∀ read context, ∃ entity, Entity.document twinClasses read context "b" = .ok entity ∧
          entity.methodNames = methods := by
  have failed : FirstFailure twinClasses (identityMap ["c", "z", "y", "a"]).values (.unknownEntity "y") := by
    refine ⟨["a", "c"], "y", ["z"], by decide +kernel, ?_, rfl⟩
    intro earlier member
    simp only [List.mem_cons, List.not_mem_nil, or_false] at member
    rcases member with rfl | rfl
    · exact ⟨_, rfl⟩
    · exact ⟨_, rfl⟩
  have values : (identityMap ["c", "b", "a"]).values = ["a", "b", "c"] := by decide +kernel
  have last : LastDeclaring twinClasses (identityMap ["c", "b", "a"]).values "Twin" "b" secondTwin := by
    refine ⟨["a"], ["c"], values, rfl, rfl, ?_⟩
    intro later member other found
    rw [List.mem_singleton.mp member] at found
    cases found
    decide
  have outside : ¬ InFamily "kohana" secondTwin.name := isListed_iff.mp (by decide +kernel)
  have inside : InFamily "kohana" "KOHANA_Twin" := ⟨"KOHANA".toList, "_Twin".toList, by decide, by decide⟩
  obtain ⟨listing, listed⟩ : ∃ listing,
    methodListing twinClasses "kohana" (identityMap ["c", "b", "a"]) = .ok listing := ⟨_, rfl⟩
  obtain ⟨_, failures, _⟩ := method_listing_agrees_with_pages twinClasses "kohana" (identityMap ["c", "z", "y", "a"])
  obtain ⟨_, _, successes⟩ := method_listing_agrees_with_pages twinClasses "kohana" (identityMap ["c", "b", "a"])
  obtain ⟨names, lists⟩ := successes listing listed
  have shown : "Twin" ∈ listing.keys :=
    (names "Twin").mpr ⟨outside, "b", by rw [values]; decide, secondTwin, rfl, rfl⟩
  have hidden : "KOHANA_Twin" ∉ listing.keys := fun member => ((names "KOHANA_Twin").mp member).1 inside
  obtain ⟨methods, atTwin, ascending, perm, pages⟩ := (lists "Twin" shown).2 "b" secondTwin last
  refine ⟨(failures _).mpr failed, listing, listed, shown, hidden, methods, atTwin, ascending, perm, ?_⟩
  intro read context
  obtain ⟨entity, documented⟩ : ∃ entity, Entity.document twinClasses read context "b" = .ok entity := ⟨_, rfl⟩
  exact ⟨entity, documented, pages read context entity documented⟩

end ClassDocs
