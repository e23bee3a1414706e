import Mathlib.Data.List.TakeWhile
import ChallengeLogin.Challenge
import ChallengeLogin.Reply

namespace ChallengeLogin.Url

-- A web URL, whose path is one of segments
structure IsSite (url : Url) : Prop where
  web : Http.isWeb url = true
  segments : hasOpaquePath url = false

-- The URL with another path and nothing behind it
def withPath (url : Url) (segments : List String) : Url :=
  { url with path := .segments segments, query := none, fragment := none }

-- A URL at the site of another one, with a path and nothing behind it
structure IsPage (base : Url) (path : String) (url : Url) : Prop where
  scheme : url.scheme = base.scheme
  username : url.username = base.username
  password : url.password = base.password
  host : url.host = base.host
  port : url.port = base.port
  path : url.path.text = path.toList
  query : url.query = none
  fragment : url.fragment = none

theorem isPage_withPath (base : Url) {path : String} {segments : List String}
    (hpath : (Path.segments segments).text = path.toList) :
    IsPage base path (base.withPath segments) :=
  ⟨rfl, rfl, rfl, rfl, rfl, hpath, rfl, rfl⟩

theorem IsPage.hasHost {base url : Url} {path : String} (h : IsPage base path url)
    (hhost : base.hasHost = true) : url.hasHost = true := by
  unfold Url.hasHost at hhost ⊢
  rwa [h.host]

theorem hasHost_withPath {url : Url} (segments : List String) (h : url.hasHost = true) :
    (url.withPath segments).hasHost = true := h

section Parsing

variable {url : Url} {scheme : String} {cs : List Char} {host : Host}

theorem ofText_ne_empty (h : Host.ofText cs = .ok host) : host ≠ .empty := by
  rintro rfl
  unfold Host.ofText at h
  split at h
  · rename_i answer hbracketed
    subst h
    unfold Host.bracketed? at hbracketed
    split at hbracketed
    · split at hbracketed
      · split at hbracketed <;> cases hbracketed
      · cases hbracketed
    · cases hbracketed
  · split at h
    · cases h
    · cases h
    · split at h
      · split at h <;> cases h
      · cases h

theorem hostAndPort_ne_empty {hasUser : Bool} {port : Option Nat} {rest : List Char}
    (hspecial : isSpecial scheme = true)
    (h : hostAndPort scheme hasUser cs = .ok (host, port, rest)) : host ≠ .empty := by
  unfold hostAndPort at h
  simp only [hspecial, if_true] at h
  split at h
  · cases h
  · split at h
    · cases h
    · rename_i read hread
      have hne := ofText_ne_empty hread
      split at h
      · split at h <;> cases h
        exact hne
      · cases h
        exact hne

theorem withAuthority_cases (h : withAuthority scheme cs = .ok url) :
    url.scheme = scheme ∧ hasOpaquePath url = false ∧
      ∃ hasUser rest host port behind,
        hostAndPort scheme hasUser rest = .ok (host, port, behind) ∧ url.host = some host := by
  unfold withAuthority at h
  simp only at h
  split at h
  · cases h
  · split at h
    · cases h
    · rename_i host port behind hread
      cases h
      exact ⟨rfl, rfl, _, _, host, port, behind, hread, rfl⟩

theorem hasHost_of_ne_empty (hhost : url.host = some host) (hne : host ≠ .empty) :
    url.hasHost = true := by
  unfold hasHost
  cases host with
  | empty => exact absurd rfl hne
  | domain | ipv4 | ipv6 => rw [hhost]

theorem withAuthority_hasHost (hspecial : isSpecial scheme = true)
    (h : withAuthority scheme cs = .ok url) : url.hasHost = true := by
  obtain ⟨-, -, _, _, host, _, _, hread, hhost⟩ := withAuthority_cases h
  exact hasHost_of_ne_empty hhost (hostAndPort_ne_empty hspecial hread)

theorem fileWithHost_cases (h : fileWithHost cs = .ok url) :
    ∃ host rest, url = fileUrl host [] rest := by
  unfold fileWithHost at h
  simp only at h
  split at h
  · cases h
    exact ⟨_, _, rfl⟩
  · split at h
    · cases h
    · cases h
      exact ⟨_, _, rfl⟩

theorem isSpecial_of_isWeb (h : Http.isWeb url = true) :
    isSpecial url.scheme = true ∧ url.scheme ≠ "file" := by
  simp only [Http.isWeb, Bool.or_eq_true, decide_eq_true_eq] at h
  rcases h with h | h <;> rw [h] <;> decide

-- Only the reading of an authority comes to a web URL.
theorem withAuthority_of_withScheme (h : withScheme none scheme cs = .ok url)
    (hweb : Http.isWeb url = true) :
    isSpecial scheme = true ∧ ∃ rest, withAuthority scheme rest = .ok url := by
  obtain ⟨hspecial, hfile⟩ := isSpecial_of_isWeb hweb
  unfold withScheme at h
  simp only [Option.filter_none] at h
  by_cases hscheme : scheme = "file"
  · rw [if_pos hscheme] at h
    refine absurd ?_ hfile
    split at h
    iterate 4
      obtain ⟨host, rest, rfl⟩ := fileWithHost_cases h
      rfl
    cases h
    rfl
  rw [if_neg hscheme] at h
  by_cases hknown : isSpecial scheme = true
  · rw [if_pos hknown] at h
    exact ⟨hknown, _, h⟩
  · rw [if_neg hknown] at h
    refine absurd ?_ hknown
    split at h
    · rwa [(withAuthority_cases h).1] at hspecial
    · cases h
      exact hspecial

theorem withAuthority_of_parse {text : String} (h : parse text = .ok url)
    (hweb : Http.isWeb url = true) :
    ∃ scheme rest, isSpecial scheme = true ∧ withAuthority scheme rest = .ok url := by
  unfold parse at h
  simp only at h
  split at h
  · obtain ⟨hspecial, rest, hread⟩ := withAuthority_of_withScheme h hweb
    exact ⟨_, rest, hspecial, hread⟩
  · cases h

-- What is read as a web URL is a site.
theorem isSite_of_parse {text : String} (h : parse text = .ok url) (hweb : Http.isWeb url = true) :
    IsSite url := by
  obtain ⟨scheme, rest, -, hread⟩ := withAuthority_of_parse h hweb
  exact ⟨hweb, (withAuthority_cases hread).2.1⟩

theorem hasHost_of_parse {text : String} (h : parse text = .ok url) (hweb : Http.isWeb url = true) :
    url.hasHost = true := by
  obtain ⟨scheme, rest, hspecial, hread⟩ := withAuthority_of_parse h hweb
  exact withAuthority_hasHost hspecial hread

end Parsing

section Joining

variable {base : Url}

-- A slash and a plain path take the place of the path.
theorem relative_path (hspecial : isSpecial base.scheme = true) {path : List Char}
    (hslash : (path.head?.map isSlash).getD false = false)
    (hplain : ∀ c ∈ path, !isPathEnd c) :
    relative base ('/' :: path) =
      .ok (base.withPath (appendSegments false [] (rawSegments true path))) := by
  have htake : path.takeWhile (fun c => !isPathEnd c) = path :=
    List.takeWhile_eq_self_iff.mpr hplain
  have hdrop : ('/' :: path).dropWhile (fun c => !isPathEnd c) = [] :=
    List.dropWhile_eq_nil_iff.mpr (List.forall_mem_cons.mpr ⟨rfl, hplain⟩)
  have hmatch : relative base ('/' :: path) =
      if (path.head?.map isSlash).getD false then
        withAuthority base.scheme
          (if isSpecial base.scheme then path.dropWhile isSlash else path.drop 1)
      else
        .ok { base with
          path := .segments (appendSegments false []
            (rawSegments (isSpecial base.scheme) (path.takeWhile (fun c => !isPathEnd c))))
          query := queryOf (isSpecial base.scheme)
            (('/' :: path).dropWhile (fun c => !isPathEnd c))
          fragment := fragmentOf (('/' :: path).dropWhile (fun c => !isPathEnd c)) } := rfl
  rw [hmatch, hslash, hspecial, htake, hdrop]
  rfl

theorem join_path (hbase : IsSite base) {reference : String} (path : List Char)
    (hclean : cleaned reference.toList = '/' :: path)
    (hslash : (path.head?.map isSlash).getD false = false)
    (hplain : path.all (fun c => !isPathEnd c) = true) :
    base.join reference =
      .ok (base.withPath (appendSegments false [] (rawSegments true path))) := by
  obtain ⟨hspecial, hfile⟩ := isSpecial_of_isWeb hbase.web
  have hscheme : splitScheme? ('/' :: path) = none := rfl
  have hhead : ¬('/' :: path).head? = some '#' := by simp
  rw [join]
  simp only [hclean, hscheme, if_neg hhead, hbase.segments, Bool.false_eq_true, if_false,
    if_neg hfile]
  exact relative_path hspecial hslash (List.all_eq_true.mp hplain)

theorem join_loginPath (hbase : IsSite base) :
    base.join loginPath = .ok (base.withPath ["admin", "login"]) :=
  join_path hbase "admin/login".toList (by decide) (by decide) (by decide)

theorem join_dashboardPath (hbase : IsSite base) :
    base.join dashboardPath = .ok (base.withPath ["admin"]) :=
  join_path hbase "admin".toList (by decide) (by decide) (by decide)

theorem join_logoutPath (hbase : IsSite base) :
    base.join Session.logoutPath = .ok (base.withPath ["admin", "logout"]) :=
  join_path hbase "admin/logout".toList (by decide) (by decide) (by decide)

-- The paths of the program join with every site, whatever path the site has and what is behind it.
theorem exists_page_of_site (hbase : IsSite base) :
    ∀ path ∈ [loginPath, dashboardPath, Session.logoutPath],
      ∃ url, base.join path = .ok url ∧ IsPage base path url := by
  intro path hpath
  simp only [List.mem_cons, List.not_mem_nil, or_false] at hpath
  rcases hpath with rfl | rfl | rfl
  · exact ⟨_, join_loginPath hbase, isPage_withPath base (by decide)⟩
  · exact ⟨_, join_dashboardPath hbase, isPage_withPath base (by decide)⟩
  · exact ⟨_, join_logoutPath hbase, isPage_withPath base (by decide)⟩

theorem relativeToFile_scheme {url : Url} {cs : List Char} (hfile : base.scheme = "file")
    (h : relativeToFile base cs = .ok url) : url.scheme = "file" := by
  unfold relativeToFile at h
  simp only at h
  split at h
  iterate 3
    cases h
    exact hfile
  split at h
  · split at h
    · obtain ⟨host, rest, rfl⟩ := fileWithHost_cases h
      rfl
    · split at h <;> cases h <;> rfl
  · split at h
    · cases h
      rfl
    · cases h
      exact hfile

-- A base that leads to a web URL is a site itself.
theorem isSite_of_join {url : Url} (h : base.join loginPath = .ok url)
    (hweb : Http.isWeb url = true) : IsSite base := by
  have hclean : cleaned loginPath.toList = '/' :: "admin/login".toList := by decide
  have hscheme : splitScheme? ('/' :: "admin/login".toList) = none := rfl
  have hhead : ¬('/' :: "admin/login".toList).head? = some '#' := by simp
  rw [join] at h
  simp only [hclean, hscheme, if_neg hhead] at h
  by_cases hopaque : hasOpaquePath base = true
  · rw [if_pos hopaque] at h
    cases h
  rw [if_neg hopaque] at h
  by_cases hfile : base.scheme = "file"
  · rw [if_pos hfile] at h
    exact absurd (relativeToFile_scheme hfile h) (isSpecial_of_isWeb hweb).2
  rw [if_neg hfile] at h
  cases h
  exact ⟨hweb, Bool.eq_false_iff.mpr hopaque⟩

end Joining

end ChallengeLogin.Url
