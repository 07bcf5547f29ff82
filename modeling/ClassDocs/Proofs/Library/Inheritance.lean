import ClassDocs.Library.Reflect

namespace ClassDocs

/-- What reading the class of a key gives. -/
def FileSystem.memberAt (files : FileSystem) (index : SortedMap String) (key : String) :
    Except DocError ClassOutline :=
  match index.get? key with
  | some path => files.outlineAt key path
  | none => .error (.unknownEntity key)

/-- The key of the parent that the class of a key declares, as long as the index holds it and it was
not visited before. A class that cannot be read declares none. -/
def FileSystem.nextKey? (files : FileSystem) (index : SortedMap String) (visited : List String)
    (key : String) : Option String :=
  match files.memberAt index key with
  | .ok outline =>
    (outline.parent.map lowercase).filter fun parent => index.contains parent && !visited.contains parent
  | .error _ => none

/-- The keys above a key, nearest first, when the keys `visited` were met on the way to it, itself
included. -/
inductive Lineage (files : FileSystem) (index : SortedMap String) :
    List String → String → List String → Prop
  | last {visited key} : files.nextKey? index visited key = none → Lineage files index visited key []
  | next {visited key parent above} : files.nextKey? index visited key = some parent →
      Lineage files index (parent :: visited) parent above →
      Lineage files index visited key (parent :: above)

/-- Whether a class declares a method of a name, in any case. -/
def ClassOutline.declares (outline : ClassOutline) (name : String) : Bool :=
  outline.methods.any fun method => lowercase method.name == lowercase name

/-- The methods of a line of classes, class by class. Of the class at a place those are left out
whose name a class at an earlier place declares. -/
def nearestMethods (line : List ClassOutline) : List MethodOutline :=
  line.zipIdx.flatMap fun entry =>
    entry.1.methods.filter fun method => !(line.take entry.2).any fun below => below.declares method.name

namespace Lineage

variable {files : FileSystem} {index : SortedMap String} {visited above : List String} {key : String}

theorem unique (first : Lineage files index visited key above) {other : List String}
    (second : Lineage files index visited key other) : above = other := by
  induction first generalizing other with
  | last none =>
    cases second with
    | last => rfl
    | next some => simp [none] at some
  | @next visited key parent above found rest ih =>
    cases second with
    | last none => simp [none] at found
    | @next _ _ second tail some next =>
      have same : parent = second := Option.some.inj (found.symm.trans some)
      subst second
      exact congrArg (parent :: ·) (ih next)

theorem nextKey?_eq_some {parent : String} (found : files.nextKey? index visited key = some parent) :
    index.contains parent = true ∧ parent ∉ visited := by
  unfold FileSystem.nextKey? at found
  split at found
  · obtain ⟨_, kept⟩ := Option.filter_eq_some_iff.mp found
    simpa using kept
  · simp at found

/-- No key of a line was visited before, and no key comes twice. Together with the next fact this
bounds every line by the size of the index. -/
theorem fresh (line : Lineage files index visited key above) :
    above.Nodup ∧ ∀ parent ∈ above, parent ∉ visited := by
  induction line with
  | last => simp
  | @next visited key parent above found rest ih =>
    obtain ⟨distinct, unseen⟩ := ih
    refine ⟨List.nodup_cons.mpr ⟨fun member => unseen parent member (List.mem_cons_self ..), distinct⟩, ?_⟩
    intro later member
    rcases List.mem_cons.mp member with rfl | member
    · exact (nextKey?_eq_some found).2
    · exact fun old => unseen later member (List.mem_cons_of_mem _ old)

theorem nodup_cons (line : Lineage files index [key] key above) : (key :: above).Nodup := by
  obtain ⟨distinct, unseen⟩ := line.fresh
  exact List.nodup_cons.mpr ⟨fun member => unseen key member (List.mem_cons_self ..), distinct⟩

theorem indexed (line : Lineage files index visited key above) :
    ∀ parent ∈ above, index.contains parent = true := by
  induction line with
  | last => simp
  | @next visited key parent above found rest ih =>
    intro later member
    rcases List.mem_cons.mp member with rfl | member
    · exact (nextKey?_eq_some found).1
    · exact ih later member

end Lineage

/-- The entries of an index whose keys were not visited. -/
def SortedMap.remaining (index : SortedMap String) (visited : List String) : Unvisited :=
  index.entries.filter fun entry => !visited.contains entry.1

theorem SortedMap.remaining_nil (index : SortedMap String) : index.remaining [] = index.entries :=
  List.filter_eq_self.mpr fun _ _ => rfl

theorem SortedMap.remaining_without (index : SortedMap String) (visited : List String) (key : String) :
    (index.remaining visited).without key = index.remaining (key :: visited) := by
  simp only [SortedMap.remaining, Unvisited.without, List.filter_filter]
  refine List.filter_congr fun entry _ => ?_
  by_cases same : entry.1 = key
  · simp [same]
  · simp [same]

theorem SortedMap.find?_remaining (index : SortedMap String) (visited : List String) (key : String) :
    (index.remaining visited).find? (fun entry => entry.1 == key) =
      if visited.contains key then none else index.entries.find? fun entry => entry.1 == key := by
  rw [SortedMap.remaining, List.find?_filter]
  split
  · rename_i seen
    refine List.find?_eq_none.mpr fun entry _ => ?_
    by_cases same : entry.1 = key
    · simp [same, List.contains_iff_mem.mp seen]
    · simp [same]
  · rename_i unseen
    congr 1
    funext entry
    by_cases same : entry.1 = key
    · simpa [same] using unseen
    · simp [same]

/-- The recursion over the entries that are left reads exactly the line above the class, and stops
at the first of its members that cannot be read. -/
theorem ancestors_eq_mapM {files : FileSystem} {index : SortedMap String} (visited : List String)
    {key : String} {outline : ClassOutline} (here : files.memberAt index key = .ok outline) :
    ∃ above, Lineage files index visited key above ∧
      ancestors files (index.remaining visited) outline = above.mapM (files.memberAt index) := by
  generalize classesCase : index.remaining visited = classes
  fun_induction ancestors files classes outline generalizing visited key with
  | case1 classes outline orphan =>
    exact ⟨[], .last (by simp [FileSystem.nextKey?, here, orphan]), rfl⟩
  | case2 classes outline parent declared absent =>
    rw [← classesCase, SortedMap.find?_remaining] at absent
    refine ⟨[], .last ?_, rfl⟩
    simp only [FileSystem.nextKey?, here, declared, Option.map_some, Option.filter_some]
    split at absent
    · rename_i seen
      simp [List.contains_iff_mem.mp seen]
    · simp [SortedMap.contains, SortedMap.get?, absent]
  | case3 classes outline parent declared entry found ih =>
    rw [← classesCase, SortedMap.find?_remaining] at found
    split at found
    · simp at found
    rename_i unseen
    have atParent : index.get? (lowercase parent) = some entry.2 := by simp [SortedMap.get?, found]
    have next : files.nextKey? index visited key = some (lowercase parent) := by
      simp only [FileSystem.nextKey?, here, declared, Option.map_some, Option.filter_some,
        SortedMap.contains, atParent, unseen]
      rfl
    have member : files.memberAt index (lowercase parent) = files.outlineAt (lowercase parent) entry.2 := by
      simp only [FileSystem.memberAt, atParent]
    cases read : files.outlineAt (lowercase parent) entry.2 with
    | error error =>
      have failed := member.trans read
      refine ⟨[lowercase parent], .next next (.last (by simp only [FileSystem.nextKey?, failed])), ?_⟩
      rw [List.mapM_cons, failed]
      rfl
    | ok base =>
      have succeeded := member.trans read
      obtain ⟨above, line, rest⟩ := ih base _ succeeded
        (by rw [← classesCase, SortedMap.remaining_without])
      refine ⟨lowercase parent :: above, .next next line, ?_⟩
      rw [List.mapM_cons, succeeded, ← rest]
      rfl

/-- Filtering at every level against the class below amounts to filtering each class against all
classes below it. The classes `before` stand for those below the line. -/
theorem filter_mergeMethods (before line : List ClassOutline) :
    ((mergeMethods line).filter fun method => !before.any fun below => below.declares method.name) =
      (line.zipIdx before.length).flatMap fun entry =>
        entry.1.methods.filter fun method =>
          !((before ++ line).take entry.2).any fun below => below.declares method.name := by
  induction line generalizing before with
  | nil => rfl
  | cons outline above ih =>
    have later := ih (before ++ [outline])
    simp only [List.length_append, List.length_singleton, List.append_assoc, List.singleton_append,
      List.any_append] at later
    rw [mergeMethods, List.filter_append, List.filter_filter, List.zipIdx_cons, List.flatMap_cons,
      ← later, List.take_left]
    congr 1
    refine List.filter_congr fun method _ => ?_
    have hidden : (outline.methods.map fun other => lowercase other.name).contains (lowercase method.name) =
        outline.declares method.name := by
      rw [ClassOutline.declares, List.contains_eq_any_beq, List.any_map]
      congr 1
      funext other
      simp [Bool.beq_comm]
    simp only [hidden, List.any_cons, List.any_nil, Bool.or_false, Bool.not_or]

theorem mergeMethods_eq_nearestMethods (line : List ClassOutline) :
    mergeMethods line = nearestMethods line := by
  have whole := filter_mergeMethods [] line
  have kept : ((mergeMethods line).filter fun method =>
      !([] : List ClassOutline).any fun below => below.declares method.name) = mergeMethods line :=
    List.filter_eq_self.mpr fun _ _ => rfl
  exact kept.symm.trans whole

/-- Inheritance runs along one line of classes, which is finite for every index, cyclic or not. The
first member of the line that cannot be read decides the error; otherwise the class itself comes back
with the nearest declaration of every method. -/
theorem reflect_along_lineage (files : FileSystem) (index : SortedMap String) (name : String) :
    ∃ above, Lineage files index [lowercase name] (lowercase name) above ∧
      (∀ other, Lineage files index [lowercase name] (lowercase name) other → other = above) ∧
      (lowercase name :: above).Nodup ∧ (∀ parent ∈ above, index.contains parent = true) ∧
      reflect files index name =
        if index.contains (lowercase name) then do
          let outline ← files.memberAt index (lowercase name)
          let bases ← above.mapM (files.memberAt index)
          return { outline with methods := nearestMethods (outline :: bases) }
        else .error (.unknownEntity name) := by
  cases atKey : index.get? (lowercase name) with
  | none =>
    have line : Lineage files index [lowercase name] (lowercase name) [] :=
      .last (by simp [FileSystem.nextKey?, FileSystem.memberAt, atKey])
    refine ⟨[], line, fun _ second => second.unique line, line.nodup_cons, line.indexed, ?_⟩
    simp only [reflect, SortedMap.contains, atKey]
    rfl
  | some path =>
    have member : files.memberAt index (lowercase name) = files.outlineAt (lowercase name) path := by
      simp only [FileSystem.memberAt, atKey]
    have held : index.contains (lowercase name) = true := by simp [SortedMap.contains, atKey]
    cases read : files.outlineAt (lowercase name) path with
    | error error =>
      have line : Lineage files index [lowercase name] (lowercase name) [] :=
        .last (by simp only [FileSystem.nextKey?, member, read])
      refine ⟨[], line, fun _ second => second.unique line, line.nodup_cons, line.indexed, ?_⟩
      simp only [reflect, atKey, held, member, read]
      rfl
    | ok outline =>
      obtain ⟨above, line, walked⟩ := ancestors_eq_mapM [lowercase name] (member.trans read)
      refine ⟨above, line, fun _ second => second.unique line, line.nodup_cons, line.indexed, ?_⟩
      simp only [reflect, atKey, held, if_true, member, read, mergeMethods_eq_nearestMethods,
        ← index.remaining_nil, SortedMap.remaining_without]
      change (ancestors files (index.remaining [lowercase name]) outline >>= _) =
        above.mapM (files.memberAt index) >>= _
      rw [walked]

end ClassDocs
