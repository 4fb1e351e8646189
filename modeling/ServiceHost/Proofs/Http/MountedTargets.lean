import ServiceHost.Proofs.Http.MethodPaths
import ServiceHost.Settings.Validation

/-!
# Targets below a mounted path

What is mounted under a path sees the targets below it, written out and read again.  A target that
was read has nothing in its path and its query that would be read as something else (`IsProper`), so
below every mounted path it is read again as it stands (`below?_eq`): the path loses the mounted one
and nothing else, the query stays, and mounting one below the other is mounting under both
(`target_below_mount_path`).
-/

namespace ServiceHost.Target

/-- A query with the mark in front of it. -/
def queryOctets : Option Octets → Octets
  | none => []
  | some query => 0x3F :: query

/-- A path and a query that stay what they are when they are written and read: they have only octets
that may stand there, and are not too long. -/
structure ArePlain (path : Octets) (query : Option Octets) : Prop where
  path_octets : ∀ b ∈ path, isPathOctet b = true
  query_octets : ∀ q ∈ query, ∀ b ∈ q, isQueryOctet b = true
  fits : path.length + (queryOctets query).length ≤ maxLength

/-- Whether the path and the query of a target stay what they are. -/
def IsProper (target : Target) : Prop :=
  ArePlain (Utf8.ofString target.path) (target.query.map Utf8.ofString)

theorem ofString_append (front back : String) :
    Utf8.ofString (front ++ back) = Utf8.ofString front ++ Utf8.ofString back := by
  simp [Utf8.ofString, Utf8.encode]

theorem ofString_render (path : String) (query : Option String) :
    Utf8.ofString (render { path, query }) =
      Utf8.ofString path ++ queryOctets (query.map Utf8.ofString) := by
  cases query with
  | none => simp [render, queryOctets]
  | some query =>
      have hmark : Utf8.ofString "?" = [0x3F] := rfl
      simp [render, queryOctets, ofString_append, hmark]

theorem ofString_root : Utf8.ofString "/" = [0x2F] := rfl

theorem all_isPathOctet_root : ∀ b ∈ Utf8.ofString "/", isPathOctet b = true := by
  rw [ofString_root]
  exact List.forall_mem_singleton.mpr (by decide)

theorem text?_ofString (text : String) : text? (Utf8.ofString text) = some text := by
  rw [text?, Utf8.ofString, Utf8.decode?_encode, Option.map_some, String.ofList_toList]

theorem eq_ofString_of_text? {octets : Octets} {text : String} (h : text? octets = some text) :
    octets = Utf8.ofString text := by
  obtain ⟨chars, hread, rfl⟩ := Option.map_eq_some_iff.mp h
  rw [Utf8.ofString, String.toList_ofList, Utf8.encode_of_decode? hread]

/-! ## Reading a path and a query -/

/-- What is read is the path, the query behind its mark, and at most a fragment behind both. -/
theorem takeQuery_eq_some {octets path : Octets} {query : Option Octets}
    (h : takeQuery octets = some (path, query)) :
    ∃ rest, octets = path ++ queryOctets query ++ rest ∧ isFragment rest = true ∧
      (∀ b ∈ path, isPathOctet b = true) ∧ ∀ q ∈ query, ∀ b ∈ q, isQueryOctet b = true := by
  have hsplit := List.takeWhile_append_dropWhile (p := isPathOctet) (l := octets)
  have hpath : ∀ b ∈ octets.takeWhile isPathOctet, isPathOctet b = true :=
    fun b hb => List.mem_takeWhile_imp hb
  unfold takeQuery at h
  rw [List.span_eq_takeWhile_dropWhile] at h
  split at h
  · rename_i front behind heq
    obtain ⟨rfl, hbehind⟩ := Prod.mk.inj heq
    rw [List.span_eq_takeWhile_dropWhile] at h
    simp only at h
    split at h
    · rename_i hfragment
      obtain ⟨rfl, rfl⟩ := Prod.mk.inj (Option.some.inj h)
      refine ⟨behind.dropWhile isQueryOctet, ?_, hfragment, hpath, ?_⟩
      · rw [queryOctets, List.append_assoc, List.cons_append, List.takeWhile_append_dropWhile,
          ← hbehind, hsplit]
      · rintro q ⟨⟩ b hb
        exact List.mem_takeWhile_imp hb
    · cases h
  · rename_i front behind hother heq
    obtain ⟨rfl, rfl⟩ := Prod.mk.inj heq
    split at h
    · rename_i hfragment
      obtain ⟨rfl, rfl⟩ := Prod.mk.inj (Option.some.inj h)
      exact ⟨_, by rw [queryOctets, List.append_nil, hsplit], hfragment, hpath, by simp⟩
    · cases h

/-- What starts with a slash has a path. -/
theorem path_ne_nil_of_root {octets path : Octets} {query : Option Octets}
    (h : takeQuery octets = some (path, query)) (hroot : octets.head? = some 0x2F) : path ≠ [] := by
  rintro rfl
  obtain ⟨rest, rfl, hfragment, -⟩ := takeQuery_eq_some h
  cases query with
  | some query => simp [queryOctets] at hroot
  | none =>
      rw [queryOctets, List.append_nil, List.nil_append] at hroot
      simp [isFragment, hroot] at hfragment

/-- A plain path, and a plain query behind it, are what is read. -/
theorem takeQuery_append {path : Octets} {query : Option Octets} (h : ArePlain path query) :
    takeQuery (path ++ queryOctets query) = some (path, query) := by
  have hmark : isPathOctet 0x3F = false := by decide
  have hend : (queryOctets query).takeWhile isPathOctet = [] := by
    cases query <;> simp [queryOctets, hmark]
  have hspan : (path ++ queryOctets query).span isPathOctet = (path, queryOctets query) := by
    rw [List.span_eq_takeWhile_dropWhile, List.takeWhile_append_of_pos h.path_octets,
      List.dropWhile_append_of_pos h.path_octets, hend, List.append_nil]
    cases query <;> simp [queryOctets, hmark]
  rw [takeQuery, hspan]
  cases query with
  | none => rfl
  | some query =>
      have hall := h.query_octets query rfl
      simp only [queryOctets]
      rw [List.span_eq_takeWhile_dropWhile, List.takeWhile_eq_self_iff.mpr hall,
        List.dropWhile_eq_nil_iff.mpr hall]
      rfl

/-- **A proper path and query are read as they stand.** -/
theorem parse?_render {path : String} {query : Option String} (hroot : path.toList.head? = some '/')
    (h : IsProper { path, query }) :
    parse? (Utf8.ofString (render { path, query })) = some { path, query } := by
  obtain ⟨behind, hbehind⟩ : ∃ behind, path.toList = '/' :: behind := by
    cases hchars : path.toList with
    | nil => simp [hchars] at hroot
    | cons c behind => exact ⟨behind, by simpa [hchars] using hroot⟩
  have hne : path.isEmpty = false := by
    rw [Bool.eq_false_iff]
    intro hempty
    have hnil : path = "" := by simpa using hempty
    simp [hnil] at hbehind
  obtain ⟨rest, hrest⟩ : ∃ rest, Utf8.ofString path = 0x2F :: rest := by
    refine ⟨Utf8.encode behind, ?_⟩
    rw [Utf8.ofString, hbehind]
    rfl
  have hfits : (Utf8.ofString path).length + (queryOctets (query.map Utf8.ofString)).length ≤
      maxLength := h.fits
  rw [ofString_render, parse?, if_neg, if_neg, if_pos, ofPath?, takeQuery_append h,
    Option.bind_some]
  · simp only [text?_ofString, Option.bind_some]
    cases query with
    | none => simp [optionalText?, hne]
    | some query => simp [optionalText?, text?_ofString, hne]
  · simp [hrest]
  · have hstar : Octets.ascii "*" = [0x2A] := rfl
    simp [hrest, hstar]
  · rw [← List.length_append, hrest] at hfits
    rw [hrest]
    simpa using hfits

/-! ## Targets that were read -/

theorem isProper_ofPath? {scheme authority : Option String} {octets : Octets} {target : Target}
    (h : ofPath? scheme authority octets = some target)
    (hfits : octets.length < maxLength ∨
      octets.head? = some 0x2F ∧ octets.length ≤ maxLength) : IsProper target := by
  obtain ⟨⟨pathOctets, queryPart⟩, htake, h⟩ := Option.bind_eq_some_iff.mp h
  obtain ⟨path, hpath, h⟩ := Option.bind_eq_some_iff.mp h
  obtain ⟨query, hquery, rfl⟩ := Option.map_eq_some_iff.mp h
  obtain rfl := eq_ofString_of_text? hpath
  have hqueryPart : queryPart = query.map Utf8.ofString := by
    cases queryPart with
    | none =>
        obtain rfl := Option.some.inj hquery
        rfl
    | some octets =>
        obtain ⟨text, htext, rfl⟩ := Option.map_eq_some_iff.mp hquery
        simp [eq_ofString_of_text? htext]
  subst hqueryPart
  obtain ⟨rest, hwhole, -, hpathOctets, hqueryOctets⟩ := takeQuery_eq_some htake
  have hlength : (Utf8.ofString path).length + (queryOctets (query.map Utf8.ofString)).length ≤
      octets.length := by
    rw [hwhole, List.length_append, List.length_append]
    omega
  by_cases hempty : path.isEmpty = true
  · -- the root takes the place of the empty path, so the length needs the octet that is left over
    have hnil : path = "" := by simpa using hempty
    subst hnil
    refine ⟨all_isPathOctet_root, hqueryOctets, ?_⟩
    show (Utf8.ofString "/").length + (queryOctets (query.map Utf8.ofString)).length ≤ maxLength
    rw [ofString_root, List.length_singleton]
    rcases hfits with hless | ⟨hhead, -⟩
    · omega
    · exact absurd rfl (path_ne_nil_of_root htake hhead)
  · simp only [hempty]
    exact ⟨hpathOctets, hqueryOctets, by simp only [Bool.false_eq_true, if_false]; omega⟩

/-- A scheme takes its mark along. -/
theorem length_of_takeScheme {octets scheme rest : Octets}
    (h : takeScheme octets = some (some scheme, rest)) : rest.length + 3 ≤ octets.length := by
  unfold takeScheme at h
  rw [List.span_eq_takeWhile_dropWhile] at h
  simp only at h
  split at h
  · rename_i hmark
    split at h
    · obtain ⟨-, rfl⟩ := Prod.mk.inj (Option.some.inj h)
      have hprefix := List.isPrefixOf_iff_prefix.mp (Bool.and_eq_true_iff.mp hmark).1
      have hthree : schemeMark.length = 3 := rfl
      have hleast := hprefix.length_le
      have hmost := (List.dropWhile_suffix isSchemeOctet (l := octets)).length_le
      rw [List.length_drop]
      omega
    · cases h
  · simp at h

theorem length_of_takeAuthority {octets authority rest : Octets}
    (h : takeAuthority octets = some (authority, rest)) : rest.length ≤ octets.length := by
  unfold takeAuthority at h
  rw [List.span_eq_takeWhile_dropWhile] at h
  simp only at h
  split at h
  · split at h
    · obtain ⟨-, rfl⟩ := Prod.mk.inj (Option.some.inj h)
      exact (List.dropWhile_suffix _).length_le
    · cases h
  · cases h

/-- **Every target that was read is proper.**  The root that stands for an empty path behind an
authority makes it no longer than the scheme and its mark did. -/
theorem isProper_parse? {octets : Octets} {target : Target} (h : parse? octets = some target) :
    IsProper target := by
  unfold parse? at h
  split at h
  · cases h
  rename_i hlength
  have hfits : octets.length ≤ maxLength := by
    simp only [Bool.or_eq_true, decide_eq_true_eq, not_or, Nat.not_lt] at hlength
    exact hlength.2
  split at h
  · -- the server itself
    cases h
    exact ⟨List.forall_mem_singleton.mpr (by decide), by simp, by decide⟩
  split at h
  · exact isProper_ofPath? h (Or.inr ⟨‹_›, hfits⟩)
  obtain ⟨⟨scheme, rest⟩, hscheme, h⟩ := Option.bind_eq_some_iff.mp h
  obtain ⟨⟨authority, behind⟩, hauthority, h⟩ := Option.bind_eq_some_iff.mp h
  have hbehind := length_of_takeAuthority hauthority
  cases scheme with
  | none =>
      simp only at h
      split at h
      · cases h
        exact ⟨by simp [Utf8.ofString, Utf8.encode], by simp, Nat.zero_le _⟩
      · cases h
  | some scheme =>
      have hrest := length_of_takeScheme hscheme
      simp only at h
      split at h
      · cases h
      · exact isProper_ofPath? h (Or.inl (by omega))

/-! ## Below a path -/

/-- **The path below a path**: nothing is left but the root, or what is left starts with a slash. -/
theorem pathBelow?_eq_some_iff {mountPath path below : String} :
    pathBelow? mountPath path = some below ↔
      (path = mountPath ∧ below = "/") ∨
        (path = mountPath ++ below ∧ below.toList.head? = some '/') := by
  simp only [pathBelow?, Option.bind_eq_some_iff, dropLeading?_eq_some_iff]
  constructor
  · rintro ⟨rest, rfl, h⟩
    split at h
    · rename_i hslash
      obtain rfl := Option.some.inj h
      exact Or.inr ⟨rfl, hslash⟩
    · split at h
      · rename_i hempty
        have hnil : rest = "" := by simpa using hempty
        exact Or.inl ⟨by simp [hnil], (Option.some.inj h).symm⟩
      · cases h
  · rintro (⟨rfl, rfl⟩ | ⟨rfl, hslash⟩)
    · exact ⟨"", by simp, by simp⟩
    · exact ⟨below, rfl, if_pos hslash⟩

variable {target : Target} {mountPath : String}

/-- What is left below a path is proper. -/
theorem IsProper.below (h : IsProper target) (hmount : mountPath ≠ "") {path : String}
    (hbelow : pathBelow? mountPath target.path = some path) :
    IsProper { path, query := target.query } := by
  have hfits := h.fits
  rcases pathBelow?_eq_some_iff.mp hbelow with ⟨hsame, rfl⟩ | ⟨hwhole, -⟩
  · have hlength : 0 < (Utf8.ofString target.path).length := by
      rw [List.length_pos_iff, hsame, Utf8.ofString, ne_eq, Utf8.encode_eq_nil_iff]
      simpa using hmount
    refine ⟨all_isPathOctet_root, h.query_octets, ?_⟩
    show (Utf8.ofString "/").length + (queryOctets (target.query.map Utf8.ofString)).length ≤ _
    rw [ofString_root, List.length_singleton]
    omega
  · refine ⟨fun b hb => h.path_octets b ?_, h.query_octets, ?_⟩
    · rw [hwhole, ofString_append]
      exact List.mem_append_right _ hb
    · rw [hwhole, ofString_append, List.length_append] at hfits
      simp only
      omega

/-- **A target below a path** has the path that is left and the query, and nothing else. -/
theorem below?_eq (h : IsProper target) (hmount : mountPath ≠ "") :
    below? mountPath target =
      (pathBelow? mountPath target.path).map fun path => { path, query := target.query } := by
  rw [below?]
  cases hbelow : pathBelow? mountPath target.path with
  | none => rfl
  | some path =>
      have hroot : path.toList.head? = some '/' := by
        rcases pathBelow?_eq_some_iff.mp hbelow with ⟨-, rfl⟩ | ⟨-, hslash⟩
        · rfl
        · exact hslash
      exact parse?_render hroot (h.below hmount hbelow)

/-- Going below one path and then below another is going below both, one behind the other. -/
theorem pathBelow?_bind (first second path : String)
    (hsecond : Settings.isMountPath second = true) :
    (pathBelow? first path).bind (pathBelow? second) = pathBelow? (first ++ second) path := by
  obtain ⟨hslash, hlast⟩ : second.toList.head? = some '/' ∧ second.toList.getLast? ≠ some '/' := by
    simpa [Settings.isMountPath] using hsecond
  obtain ⟨behind, hchars⟩ : ∃ behind, second.toList = '/' :: behind := by
    cases hchars : second.toList with
    | nil => simp [hchars] at hslash
    | cons c behind => exact ⟨behind, by simpa [hchars] using hslash⟩
  have hlong : behind ≠ [] := by
    rintro rfl
    simp [hchars] at hlast
  -- the root is no path below the second one
  have hroot : ∀ rest, "/" ≠ second ++ rest := by
    intro rest hsame
    have := congrArg String.toList hsame
    rw [String.toList_append, hchars] at this
    simp [hlong] at this
  ext below
  rw [Option.bind_eq_some_iff, pathBelow?_eq_some_iff]
  simp only [pathBelow?_eq_some_iff]
  constructor
  · rintro ⟨middle, ⟨-, rfl⟩ | ⟨rfl, -⟩, hbelow⟩
    · rcases hbelow with ⟨hsame, -⟩ | ⟨hsame, -⟩
      · exact absurd (by simpa using hsame) (hroot "")
      · exact absurd hsame (hroot below)
    · rcases hbelow with ⟨rfl, rfl⟩ | ⟨rfl, hbelow⟩
      · exact Or.inl ⟨rfl, rfl⟩
      · exact Or.inr ⟨by rw [String.append_assoc], hbelow⟩
  · rintro (⟨rfl, rfl⟩ | ⟨rfl, hbelow⟩)
    · exact ⟨second, Or.inr ⟨rfl, hslash⟩, Or.inl ⟨rfl, rfl⟩⟩
    · refine ⟨second ++ below, Or.inr ⟨by rw [String.append_assoc], ?_⟩, Or.inr ⟨rfl, hbelow⟩⟩
      simp [hchars]

theorem ne_empty_of_isMountPath (h : Settings.isMountPath mountPath = true) : mountPath ≠ "" := by
  rintro rfl
  simp [Settings.isMountPath] at h

/-- **What is seen below a mounted path.**  A target that was read, of whatever form, is seen below a
path if its own path is this one or goes on from it with a slash.  It is then seen without scheme and
authority, with its query as it was, and with what is left of its path, or the root if nothing is left.
So what is mounted below something mounted sees what it would see under both paths. -/
theorem target_below_mount_path {octets : Octets} (hparse : parse? octets = some target)
    (hmount : Settings.isMountPath mountPath = true) :
    ((below? mountPath target).isSome = true ↔
      target.path = mountPath ∨ (mountPath ++ "/").toList <+: target.path.toList) ∧
    (∀ below, below? mountPath target = some below →
      below.scheme = none ∧ below.authority = none ∧ below.query = target.query ∧
      (target.path = mountPath → below.path = "/") ∧
      (target.path ≠ mountPath → target.path = mountPath ++ below.path)) ∧
    ∀ further, Settings.isMountPath further = true →
      (below? mountPath target).bind (below? further) = below? (mountPath ++ further) target := by
  have hproper := isProper_parse? hparse
  have hne := ne_empty_of_isMountPath hmount
  refine ⟨?_, ?_, ?_⟩
  · rw [below?_eq hproper hne, Option.isSome_map, Option.isSome_iff_exists]
    simp only [pathBelow?_eq_some_iff]
    constructor
    · rintro ⟨below, ⟨hsame, -⟩ | ⟨hwhole, hslash⟩⟩
      · exact Or.inl hsame
      · obtain ⟨behind, hbehind⟩ := List.head?_eq_some_iff.mp hslash
        exact Or.inr ⟨behind, by simp [hwhole, hbehind]⟩
    · rintro (hsame | ⟨behind, hbehind⟩)
      · exact ⟨"/", Or.inl ⟨hsame, rfl⟩⟩
      · refine ⟨String.ofList ('/' :: behind), Or.inr ⟨?_, by simp⟩⟩
        rw [← String.toList_inj, ← hbehind]
        simp
  · intro below hbelow
    rw [below?_eq hproper hne] at hbelow
    obtain ⟨path, hpath, rfl⟩ := Option.map_eq_some_iff.mp hbelow
    refine ⟨rfl, rfl, rfl, ?_, ?_⟩
    · intro hsame
      rcases pathBelow?_eq_some_iff.mp hpath with ⟨-, hroot⟩ | ⟨hwhole, hslash⟩
      · exact hroot
      · have hnothing : path = "" := by
          have hlength := congrArg String.length (hsame.symm.trans hwhole)
          simpa using hlength
        simp [hnothing] at hslash
    · intro hother
      rcases pathBelow?_eq_some_iff.mp hpath with ⟨hsame, -⟩ | ⟨hwhole, -⟩
      · exact absurd hsame hother
      · exact hwhole
  · intro further hfurther
    have hboth : mountPath ++ further ≠ "" := by
      simpa using fun hempty => absurd hempty hne
    rw [below?_eq hproper hne, below?_eq hproper hboth, ← pathBelow?_bind _ _ _ hfurther]
    cases hpath : pathBelow? mountPath target.path with
    | none => rfl
    | some path =>
        exact below?_eq (hproper.below hne hpath) (ne_empty_of_isMountPath hfurther)

/-- A target with everything; behind the first part of its path stand two slashes, and its query is
empty. -/
def wholeTarget : Target where
  scheme := some "http"
  authority := some "host:80"
  path := "/grpc//v1/ping"
  query := some ""

/-- Below its first part, and then below a path with two slashes. -/
theorem target_below_mount_path_doubled_slash :
    parse? (Octets.ascii "http://host:80/grpc//v1/ping?") = some wholeTarget ∧
    Settings.isMountPath "/grpc" = true ∧ Settings.isMountPath "//v1" = true ∧
    ∃ below, below? "/grpc" wholeTarget = some below ∧ below.query = some "" ∧
      below.path = "//v1/ping" ∧
      below? "//v1" below = some { path := "/ping", query := some "" } := by
  have hparse : parse? (Octets.ascii "http://host:80/grpc//v1/ping?") = some wholeTarget := by
    decide +kernel
  have hgrpc : Settings.isMountPath "/grpc" = true := by decide
  have hv1 : Settings.isMountPath "//v1" = true := by decide
  obtain ⟨hsees, hparts, hfurther⟩ := target_below_mount_path hparse hgrpc
  obtain ⟨below, hbelow⟩ := Option.isSome_iff_exists.mp (hsees.mpr (Or.inr (by decide)))
  obtain ⟨-, -, hquery, -, hpath⟩ := hparts below hbelow
  have hleft : "/grpc" ++ "//v1/ping" = "/grpc" ++ below.path :=
    Eq.trans (by decide) (hpath (by decide))
  have hchain := hfurther "//v1" hv1
  rw [hbelow, Option.bind_some, below?_eq (isProper_parse? hparse) (by decide)] at hchain
  exact ⟨hparse, hgrpc, hv1, below, hbelow, hquery,
    ((String.append_right_inj "/grpc").mp hleft).symm, hchain.trans (by decide)⟩

end ServiceHost.Target
