import ChallengeLogin.Http.Target

namespace ChallengeLogin.Telemetry

open ChallengeLogin.Text

def endsWithoutSlash (cs : List Char) : List Char :=
  (cs.reverse.dropWhile (· == '/')).reverse

-- An endpoint with its scheme. One that has none is asked securely, and loses the slashes at its
-- end.
def normalizeEndpoint (endpoint : String) : String :=
  let cs := endpoint.toList
  if "http://".toList.isPrefixOf cs || "https://".toList.isPrefixOf cs then endpoint
  else "https://" ++ String.ofList (endsWithoutSlash cs)

theorem normalizeEndpoint_of_prefix {scheme endpoint : String}
    (hscheme : scheme = "http://" ∨ scheme = "https://")
    (h : scheme.toList <+: endpoint.toList) : normalizeEndpoint endpoint = endpoint := by
  refine if_pos (Bool.or_eq_true_iff.mpr ?_)
  rcases hscheme with rfl | rfl
  · exact .inl (List.isPrefixOf_iff_prefix.mpr h)
  · exact .inr (List.isPrefixOf_iff_prefix.mpr h)

-- There is a scheme in front afterwards, so that a second time changes nothing.
theorem normalizeEndpoint_idem (endpoint : String) :
    normalizeEndpoint (normalizeEndpoint endpoint) = normalizeEndpoint endpoint := by
  by_cases h : ("http://".toList.isPrefixOf endpoint.toList ||
      "https://".toList.isPrefixOf endpoint.toList) = true
  · have hkept : normalizeEndpoint endpoint = endpoint := if_pos h
    rw [hkept, hkept]
  · have hadded : normalizeEndpoint endpoint =
        "https://" ++ String.ofList (endsWithoutSlash endpoint.toList) := if_neg h
    rw [hadded]
    refine normalizeEndpoint_of_prefix (.inr rfl) ?_
    rw [String.toList_append]
    exact List.prefix_append _ _

-- What is told of an endpoint that cannot be asked.
def complaint? (endpoint : String) : Option String :=
  match Http.Target.check endpoint.toList with
  | .ok () => none
  | .error fault =>
    some ("Exporter otlp encountered the following error(s): invalid URI " ++ fault.message)

end ChallengeLogin.Telemetry
