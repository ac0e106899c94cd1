import Surface.Model.Dns

/-!
# Surface.Model.Intelligence

Passive and offline intelligence: supplied subdomains and DKIM selectors, the offline bundle, and
the administrative, routing, certificate-transparency and related-domain sources.
-/

namespace Surface

structure SubdomainObservation where
  name : String
  dns : Option DnsObservation
  error : Option String
deriving DecidableEq

/-- A passive correlation candidate, not an ownership assertion. -/
structure RelatedDomainCandidate where
  name : String
  matchedNameservers : List String
  confidence : String
  evidence : List String
deriving DecidableEq

structure RelatedDomainsObservation where
  nameservers : List String
  provider : Option String
  candidates : List RelatedDomainCandidate
  complete : Bool
  errors : List String
deriving DecidableEq

inductive CertificateTransparencyDnsStatus where
  | notChecked
  | resolved
  | noAddress
  | nxDomain
  | indeterminate
deriving DecidableEq

structure CertificateTransparencyCandidate where
  name : String
  wildcard : Bool
  issuanceCount : Nat
  dnsStatus : CertificateTransparencyDnsStatus
deriving DecidableEq

structure CertificateTransparencyObservation where
  source : String
  candidates : List CertificateTransparencyCandidate
  issuanceCount : Nat
  pagesFetched : Nat
  complete : Bool
  errors : List String
deriving DecidableEq

structure NetworkRegistrationObservation where
  address : IpAddr
  source : String
  registry : String
  handle : Option String
  name : Option String
  networkType : Option String
  startAddress : Option IpAddr
  endAddress : Option IpAddr
  registrationCountry : Option String
  statuses : List String
deriving DecidableEq

structure BgpRouteObservation where
  address : IpAddr
  prefixText : Option String
  originAsns : List Nat
  source : String
  complete : Bool
  limitations : List String
deriving DecidableEq

structure DkimObservation where
  selector : String
  records : Nat
  version : Option String
  keyType : Option String
  publicKeyFingerprint : Option String
  revoked : Bool
  malformed : Bool
deriving DecidableEq

structure NetworkMetadata where
  address : IpAddr
  prefixText : String
  asn : Option Nat
  organization : Option String
  country : Option String
deriving DecidableEq

structure CveCandidate where
  cveId : String
  product : String
  version : String
  severity : String
  advisoryUrl : String
  source : String
  confidence : String
deriving DecidableEq

structure IntelligenceObservation where
  subdomains : List SubdomainObservation := []
  dkim : List DkimObservation := []
  networks : List NetworkMetadata := []
  cveCandidates : List CveCandidate := []
  bundleVersion : Option String := none
  relatedDomains : Option RelatedDomainsObservation := none
  certificateTransparency : Option CertificateTransparencyObservation := none
  networkRegistrations : List NetworkRegistrationObservation := []
  bgpRoutes : List BgpRouteObservation := []
  complete : Bool := false
  errors : List String := []
deriving DecidableEq

end Surface
