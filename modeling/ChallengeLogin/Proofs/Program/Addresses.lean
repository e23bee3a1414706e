import ChallengeLogin.Proofs.CommandLine.Site
import ChallengeLogin.Proofs.Login.Faults
import ChallengeLogin.Proofs.Session.Closing

namespace ChallengeLogin

open ChallengeLogin.CommandLine (Invocation program site? siteOf)
open ChallengeLogin.Http (Peer TurnedDown isWeb)

namespace Action

-- The action fails since a path could not be joined with the URL of its site.
inductive FailsToJoin [Http.Client] (now : Moment) (peer : Peer) : Action → Url.Fault → Prop
  | fetching {login : Login} {fault : Url.Fault}
      (h : (login.run now peer).result = .error (.challenge (.base fault))) :
      FailsToJoin now peer (.login login) fault
  | posting {login : Login} {fault : Url.Fault}
      (h : (login.run now peer).result = .error (.attempt (.base fault))) :
      FailsToJoin now peer (.login login) fault
  | closing {url : Url} {session : String} {fault : Url.Fault}
      (h : (Session.close url session peer).result = .error (.base fault)) :
      FailsToJoin now peer (.logout url session) fault

-- The action fails with the fault of an exchange.
inductive FailsToExchange [Http.Client] (now : Moment) (peer : Peer) : Action → Http.Fault → Prop
  | fetching {login : Login} {fault : Http.Fault}
      (h : (login.run now peer).result = .error (.challenge (.network fault))) :
      FailsToExchange now peer (.login login) fault
  | posting {login : Login} {fault : Http.Fault}
      (h : (login.run now peer).result = .error (.attempt (.network fault))) :
      FailsToExchange now peer (.login login) fault
  | closing {url : Url} {session : String} {fault : Http.Fault}
      (h : (Session.close url session peer).result = .error (.network fault)) :
      FailsToExchange now peer (.logout url session) fault

section Sites

variable [Http.Client] {action : Action} {base url : Url} {login : Login} {session : String}
  {now : Moment} {peer : Peer}

theorem requests_of_login : (execute (.login login) now peer).requests =
    (login.run now peer).requests := by
  rw [execute, executeLogin]
  split <;> rfl

theorem requests_of_logout : (execute (.logout base session) now peer).requests =
    (Session.close base session peer).requests := by
  rw [execute, executeLogout]
  split <;> rfl

theorem faults_of_site (hsite : Url.IsSite login.url) {fault : Login.Fault}
    (h : (login.run now peer).result = .error fault) :
    login.Faults now peer (login.url.withPath ["admin", "login"]) fault :=
  Login.faults_of_run (Url.join_loginPath hsite) (Url.join_dashboardPath hsite) h

-- No path of the program fails to join with a site.
theorem not_failsToJoin {fault : Url.Fault}
    (hsite : ∀ base, site? action = some base → Url.IsSite base ∧ base.hasHost = true) :
    ¬action.FailsToJoin now peer fault := by
  intro hfails
  cases hfails with
  | fetching h => cases faults_of_site (hsite _ rfl).1 h
  | posting h => cases faults_of_site (hsite _ rfl).1 h
  | closing h =>
    have hurl := Url.join_logoutPath (hsite _ rfl).1
    rcases Session.close_cases hurl _ peer with
      ⟨_, -, -, hok⟩ | ⟨_, _, -, hrefused⟩ | ⟨_, -, hfault⟩
    · cases h.symm.trans hok
    · cases h.symm.trans hrefused
    · cases h.symm.trans hfault

-- All exchanges of an action start at its site.
theorem turnedDown_of_fails
    (hsite : ∀ base, site? action = some base → Url.IsSite base ∧ base.hasHost = true)
    (h : action.FailsToExchange now peer (.badUrl url)) :
    TurnedDown peer.answers (action.execute now peer).requests url := by
  cases h with
  | fetching h =>
    obtain ⟨hbase, hhost⟩ := hsite _ rfl
    rw [requests_of_login]
    exact Login.turnedDown_unfetched (Url.join_loginPath hbase) hhost hbase.web
      (faults_of_site hbase h)
  | posting h =>
    obtain ⟨hbase, hhost⟩ := hsite _ rfl
    rw [requests_of_login]
    exact Login.turnedDown_unposted (Url.join_loginPath hbase) hhost hbase.web
      (faults_of_site hbase h)
  | closing h =>
    obtain ⟨hbase, hhost⟩ := hsite _ rfl
    have hurl := Url.join_logoutPath hbase
    rw [requests_of_logout, Session.requests_of_close hurl]
    rcases Session.close_cases hurl _ peer with
      ⟨_, -, -, hok⟩ | ⟨_, _, -, hrefused⟩ | ⟨_, hends, hfault⟩
    · cases h.symm.trans hok
    · cases h.symm.trans hrefused
    · cases h.symm.trans hfault
      exact Http.turnedDown_of_ends hhost hbase.web hends

end Sites

end Action

namespace Program

-- Every URL that is accepted as a site joins with the paths of the program: scheme, credentials,
-- host and port stay, the path is the one that was joined, and nothing is behind it. No action of
-- an accepted command line fails to join, and none fails at a URL of another scheme unless a reply
-- redirects one of its requests there.
theorem joins_and_stays_on_web [Http.Client] :
    (∀ text base, siteOf text = .ok base →
      ∀ path ∈ [loginPath, dashboardPath, Session.logoutPath],
        ∃ url, base.join path = .ok url ∧ url.hasHost = true ∧ Url.IsPage base path url) ∧
    ∀ environment words invocation action now peer,
      program.parse environment words = .ok invocation → invocation.action = .ok action →
        (∀ fault, ¬action.FailsToJoin now peer fault) ∧
        ∀ url, action.FailsToExchange now peer (.badUrl url) →
          TurnedDown peer.answers (action.execute now peer).requests url := by
  constructor
  · intro text base hsite path hpath
    obtain ⟨hbase, hhost⟩ := CommandLine.site_of_siteOf hsite
    obtain ⟨url, hurl, hpage⟩ := Url.exists_page_of_site hbase path hpath
    exact ⟨url, hurl, hpage.hasHost hhost, hpage⟩
  · intro environment words invocation action now peer hparse haction
    have hsite (base : Url) (hbase : site? action = some base) :=
      CommandLine.site_of_action hparse haction hbase
    exact ⟨fun fault => Action.not_failsToJoin hsite,
      fun url hfails => Action.turnedDown_of_fails hsite hfails⟩

section Sample

open ChallengeLogin.Attempt (epoch loopback)

-- A client that tells why a URL of another scheme is not asked for
@[reducible] def frankClient : Http.Client :=
  { Http.Client.plain with causes := fun _ => ["URL scheme is not allowed"] }

attribute [local instance] frankClient

-- A URL with all that may stand around a host
def crowdedText : String := "HTTPS:\\\\u:p@[::1]:3000\\a/../b?q#f"

def crowdedSite : Url :=
  { scheme := "https", username := "u", password := some "p",
    host := some (.ipv6 [0, 0, 0, 0, 0, 0, 0, 1]), port := some 3000, path := .segments ["b"],
    query := some "q", fragment := some "f" }

def closingWords : List String :=
  ["logout", "--url", "http://[::1]:3000", "--cookie", "jwt"]

def closingInvocation : Invocation :=
  { command := some "logout", values := { url := some loopback, cookie := some "jwt" },
    programVerbosity := 0 }

theorem parse_closingWords : program.parse [] closingWords = .ok closingInvocation := by
  decide +kernel

-- A URL of another scheme, and a reply that redirects to it
def elsewhere : Url :=
  { scheme := "ftp", host := some (.ipv6 [0, 0, 0, 0, 0, 0, 0, 2]), path := .segments [""] }

def departure : Http.Response :=
  ⟨302, [⟨"Location", Text.Utf8.bytesOf "ftp://[::2]"⟩], [], true⟩

theorem close_of_departure :
    (Session.close loopback "jwt" ⟨[.reply departure], true⟩).result =
      .error (.network (.badUrl elsewhere)) := by
  have hurl := Url.join_logoutPath (Url.isSite_of_parse Attempt.parse_loopback rfl)
  exact Session.close_of_fault hurl (Http.ends_iff.mpr (by decide +kernel))

theorem joins_crowdedSite :
    siteOf crowdedText = .ok crowdedSite ∧
      crowdedSite.join loginPath = .ok
        { crowdedSite with path := .segments ["admin", "login"], query := none, fragment := none } ∧
      (∃ url, crowdedSite.join loginPath = .ok url ∧ Url.IsPage crowdedSite loginPath url) ∧
      program.parse [] closingWords = .ok closingInvocation ∧
      closingInvocation.action = .ok (.logout loopback "jwt") ∧
      (∀ fault,
        ¬(Action.logout loopback "jwt").FailsToJoin epoch ⟨[.reply departure], true⟩ fault) ∧
      (Action.logout loopback "jwt").FailsToExchange epoch ⟨[.reply departure], true⟩
        (.badUrl elsewhere) ∧
      TurnedDown [.reply departure]
        ((Action.logout loopback "jwt").execute epoch ⟨[.reply departure], true⟩).requests
        elsewhere := by
  have hsite : siteOf crowdedText = .ok crowdedSite := by decide +kernel
  obtain ⟨hjoins, hruns⟩ := joins_and_stays_on_web
  obtain ⟨url, hurl, -, hpage⟩ := hjoins _ _ hsite loginPath List.mem_cons_self
  obtain ⟨hjoined, hturned⟩ := hruns [] closingWords closingInvocation _ epoch
    ⟨[.reply departure], true⟩ parse_closingWords rfl
  have hfails : (Action.logout loopback "jwt").FailsToExchange epoch ⟨[.reply departure], true⟩
      (.badUrl elsewhere) := .closing close_of_departure
  exact ⟨hsite, by decide +kernel, ⟨url, hurl, hpage⟩, parse_closingWords, rfl, hjoined, hfails,
    hturned _ hfails⟩

-- The site is on the web, and yet the run that closes a session there ends at another scheme.
theorem closes_at_other_scheme :
    program.parse [] closingWords = .ok closingInvocation ∧
      closingInvocation.action = .ok (.logout loopback "jwt") ∧ isWeb loopback = true ∧
      isWeb elsewhere = false ∧
      (Session.close loopback "jwt" ⟨[.reply departure], true⟩).result =
        .error (.network (.badUrl elsewhere)) ∧
      ((Action.logout loopback "jwt").execute epoch ⟨[.reply departure], true⟩).failure =
        some ["Failed to close admin session", "builder error for url (ftp://[::2]/)",
          "URL scheme is not allowed"] :=
  ⟨parse_closingWords, rfl, rfl, rfl, close_of_departure, by decide +kernel⟩

end Sample

end Program

end ChallengeLogin
