import Gatekeeper.Fault
import Gatekeeper.Text.Blank

namespace Gatekeeper

/-- What can be set for a route. -/
inductive Setting where
  | url
  | names
  | group
  | sessionDuration
  | redirect
  | displayName
  | showDetails
  | theme
  | refreshFrequency
  | blockingTimeout
deriving DecidableEq, Repr

/-- The name under which a setting is declared. -/
def Setting.key : Setting → Text
  | .url => "sablier_url".toList
  | .names => "sablier_names".toList
  | .group => "sablier_group".toList
  | .sessionDuration => "sablier_session_duration".toList
  | .redirect => "sablier_internal_redirect".toList
  | .displayName => "sablier_dynamic_name".toList
  | .showDetails => "sablier_dynamic_show_details".toList
  | .theme => "sablier_dynamic_theme".toList
  | .refreshFrequency => "sablier_dynamic_refresh_frequency".toList
  | .blockingTimeout => "sablier_blocking_timeout".toList

/-- What is set for one request: where to ask about which backends, how the waiting page looks, and
where the request goes once it may pass. -/
structure Settings where
  /-- The base URL of the control service. -/
  controlUrl : Text
  /-- Names of backends with commas between them. -/
  names : Option Text
  /-- A label that several backends carry. -/
  group : Option Text
  sessionDuration : Text
  /-- Where the request goes once the backends are ready. -/
  redirect : Text
  displayName : Text
  theme : Text
  refreshFrequency : Text
  showDetails : Text
  /-- How long the control service may hold its reply back. -/
  blockingTimeout : Option Text
deriving DecidableEq

namespace Settings

/-- Reads the settings from a scope. The redirect must be there and not be blank; an absent or
empty URL is replaced by the given one. -/
def ofScope (scope : Setting → Option Text) (defaultUrl : Text) : Except Fault Settings :=
  match (scope .redirect).filter (!Text.isBlank ·) with
  | none => .error .missingRedirect
  | some redirect => .ok {
      controlUrl := ((scope .url).filter (!·.isEmpty)).getD defaultUrl
      names := scope .names
      group := scope .group
      sessionDuration := (scope .sessionDuration).getD []
      redirect := redirect
      displayName := (scope .displayName).getD []
      theme := (scope .theme).getD []
      refreshFrequency := (scope .refreshFrequency).getD []
      showDetails := (scope .showDetails).getD []
      blockingTimeout := scope .blockingTimeout }

end Settings

end Gatekeeper
