import Gear360.InsertionDict
import Gear360.LivePlayer

/-! The device description and the SOAP answers of the camera: `parse_device_description`,
`send_soap_action` and `parse_stream_urls`. The XML parser is a parameter. -/
namespace Gear360

open Interaction
open Interaction.Prog (perform fromResult)

/-- An element of a parsed document; its tag has its namespace in braces in front. -/
inductive Element where
  | mk (tag : PyStr) (text : Option PyStr) (children : List Element)

namespace Element

def tag : Element → PyStr
  | .mk tag _ _ => tag

def text : Element → Option PyStr
  | .mk _ text _ => text

def children : Element → List Element
  | .mk _ _ children => children

mutual

/-- `element.iter()`: the element and what is below it, in document order. -/
def iter : Element → List Element
  | .mk tag text children => .mk tag text children :: iterAll children

def iterAll : List Element → List Element
  | [] => []
  | element :: elements => element.iter ++ iterAll elements

end

/-- `element.findall(".//" + tag)` -/
def descendants (element : Element) (tag : PyStr) : List Element :=
  (iterAll element.children).filter fun below => below.tag = tag

/-- `element.findtext(tag, "")` -/
def findtext (element : Element) (tag : PyStr) : PyStr :=
  ((element.children.find? fun child => child.tag = tag).bind text).getD []

theorem iter_eq (element : Element) : element.iter = element :: iterAll element.children := by
  cases element
  rfl

end Element

def CONTENT_DIRECTORY_TYPE : String := "urn:schemas-upnp-org:service:ContentDirectory:1"

def DEVICE_DESC_NS : String := "urn:schemas-upnp-org:device-1-0"

/-- `upnp:name`, with the namespace written out. -/
def upnpTag (name : String) : PyStr := pyStr ("\x7b" ++ DEVICE_DESC_NS ++ "\x7d" ++ name)

structure ServiceUrls where
  control : PyStr
  event : PyStr
  scpd : PyStr
deriving DecidableEq

/-- A service and its URLs; one without a type is passed over. -/
def serviceField (baseUrl : PyStr) (service : Element) : Option (PyStr × ServiceUrls) :=
  let serviceType := service.findtext (upnpTag "serviceType")
  let controlUrl := service.findtext (upnpTag "controlURL")
  let eventUrl := service.findtext (upnpTag "eventSubURL")
  let scpdUrl := service.findtext (upnpTag "SCPDURL")
  if serviceType = [] then none
  else some (serviceType, ⟨baseUrl ++ controlUrl, baseUrl ++ eventUrl, baseUrl ++ scpdUrl⟩)

section
variable (fromString : Bytes → Except PyErr Element)

/-- `parse_device_description` -/
def parseDeviceDescription (xml : Bytes) (baseUrl : PyStr) :
    Except PyErr (List (PyStr × ServiceUrls)) := do
  let root ← fromString xml
  let fields := (root.descendants (upnpTag "service")).filterMap (serviceField baseUrl)
  return InsertionDict.ofFields fields

def soapEnvelope (serviceType action : String) (args : List (String × String)) : String :=
  let argsXml := String.join (args.map fun (name, value) =>
    "<" ++ name ++ ">" ++ value ++ "</" ++ name ++ ">")
  "<?xml version=\"1.0\" encoding=\"utf-8\"?>" ++
    "<s:Envelope xmlns:s=\"http://schemas.xmlsoap.org/soap/envelope/\"" ++
    " s:encodingStyle=\"http://schemas.xmlsoap.org/soap/encoding/\">" ++ "<s:Body>" ++
    "<u:" ++ action ++ " xmlns:u=\"" ++ serviceType ++ "\">" ++ argsXml ++ "</u:" ++ action ++
    ">" ++ "</s:Body>" ++ "</s:Envelope>"

/-- The request of `send_soap_action`. -/
def soapPost (controlUrl : PyStr) (serviceType action : String) (args : List (String × String)) :
    NetOp :=
  .httpPost controlUrl
    [ ("Content-Type", "text/xml; charset=\"utf-8\""),
      ("SOAPAction", "\"" ++ serviceType ++ "#" ++ action ++ "\"") ]
    (utf8 (soapEnvelope serviceType action args)) 10000

/-- `send_soap_action` -/
def sendSoapAction (controlUrl : PyStr) (serviceType action : String)
    (args : List (String × String)) : Net Bytes :=
  perform (soapPost controlUrl serviceType action args)

def qualityTags : List PyStr :=
  [ "QualityHighUrl", "QualityMiddelUrl", "QualityLowUrl", "QualityRecUrl",
    "QualityGearVRUrl" ].map pyStr

/-- A tag without its namespace. -/
def localName (tag : PyStr) : PyStr :=
  if 0x7D ∈ tag then (PyStr.split "\x7d" tag).getLastD [] else tag

def streamField (element : Element) : Option (PyStr × PyStr) :=
  let tag := localName element.tag
  let url := PyStr.strip (element.text.getD [])
  if tag ∈ qualityTags ∧ url ≠ [] then some (tag, url) else none

/-- `parse_stream_urls` -/
def parseStreamUrls (response : Bytes) : Except PyErr (List (PyStr × PyStr)) := do
  let root ← fromString response
  return InsertionDict.ofFields (root.iter.filterMap streamField)

/-- `url.rsplit("/", 1)[0]` -/
def beforeLastSlash (url : PyStr) : PyStr :=
  if 0x2F ∈ url then (url.rdropWhile fun c => c ≠ 0x2F).dropLast else url

/-- `service_type.split(":")[-2]`, of which only the log has a use. -/
def shortName (serviceType : PyStr) : Except PyErr PyStr :=
  let parts := PyStr.split ":" serviceType
  if 2 ≤ parts.length then .ok (parts.getD (parts.length-2) []) else .error .indexError

/-- The services of a description whose types can all be logged. -/
def describedServices (xml : Bytes) (baseUrl : PyStr) :
    Except PyErr (List (PyStr × ServiceUrls)) := do
  let services ← parseDeviceDescription fromString xml baseUrl
  let _ ← services.mapM fun service => shortName service.1
  return services

/-- `_fetch_upnp_services`; only text has an `rsplit`. -/
def fetchUpnpServices : Json → Net (List (PyStr × ServiceUrls))
  | .str deviceUrl => do
    let fetch : NetOp := .httpGet deviceUrl
      [("User-Agent", "SEC_RVF_ML_A83B76BAB2FE"), ("Access-Method", "manual")] 5000 8192
    match ← (perform fetch).attempt with
    | .error e =>
      if e.isOSError then
        Net.logError (pyStr ("Fetch error: " ++ e.text))
        return []
      else .raise e
    | .ok xml => fromResult (describedServices fromString xml (beforeLastSlash deviceUrl))
  | _ => .raise .attributeError

/-- `urls.get(high) or urls.get(middel) or urls.get(low)` -/
def bestUrl (urls : List (PyStr × PyStr)) : Option PyStr :=
  let quality (name : String) := urls.lookup (pyStr name)
  ((quality "QualityHighUrl").filter (· ≠ [])).or
    (((quality "QualityMiddelUrl").filter (· ≠ [])).or (quality "QualityLowUrl"))

/-- Where the camera streams when it does not say. -/
def fallbackUrl (cameraIp : PyStr) : PyStr :=
  pyStr "http://" ++ cameraIp ++ pyStr ":7679/livestream"

/-- What the camera announces, or the usual place if it cannot be asked. -/
def requestStreamUrl (cameraIp controlUrl : PyStr) : Net (Option PyStr) :=
  Prog.tryExcept
    (do
      let response ← sendSoapAction controlUrl CONTENT_DIRECTORY_TYPE "GetInfomation"
        [("GPSINFO", "0,0")]
      let urls ← fromResult (parseStreamUrls fromString response)
      return bestUrl urls)
    fun e =>
      if e.isOSError then do
        Net.logError (pyStr ("GetInformation error: " ++ e.text))
        return some (fallbackUrl cameraIp)
      else .raise e

/-- Ask the camera to stream. -/
def setOperationState (controlUrl : PyStr) : Net Unit :=
  Prog.tryExcept
    (do
      let _ ← sendSoapAction controlUrl CONTENT_DIRECTORY_TYPE "SetOperationState"
        [("StateEvent", "changeToRVF")]
      return ())
    fun e =>
      if e.isOSError then Net.logError (pyStr ("SetOperationState error: " ++ e.text))
      else .raise e

/-- `_start_live_stream`, with the control URL of each service. -/
def startLiveStream (fuel : ℕ) (cameraIp : PyStr) (services : List (PyStr × PyStr)) : Net Unit :=
  match services.lookup (pyStr CONTENT_DIRECTORY_TYPE) with
  | none => return ()
  | some controlUrl => do
    setOperationState controlUrl
    match ← requestStreamUrl fromString cameraIp controlUrl with
    | none | some [] => Net.logError (pyStr "No stream URL available")
    | some streamUrl => playLiveStream fuel streamUrl

end

/-! ### Descriptions -/

namespace Element

/-- An element below another one, at any depth. -/
inductive Below : Element → Element → Prop where
  | child {parent element : Element} (h : element ∈ parent.children) : Below parent element
  | deeper {parent between element : Element} (h : between ∈ parent.children)
      (hbelow : Below between element) : Below parent element

mutual

theorem mem_iter {element below : Element} (h : below ∈ element.iter) :
    below = element ∨ Below element below := by
  cases element with
  | mk tag text children =>
    rcases List.mem_cons.mp h with heq | h
    · exact .inl heq
    · obtain ⟨top, htop, heq | hbelow⟩ := mem_iterAll h
      · exact .inr (.child (heq ▸ htop))
      · exact .inr (.deeper htop hbelow)

theorem mem_iterAll {elements : List Element} {below : Element} (h : below ∈ iterAll elements) :
    ∃ top ∈ elements, below = top ∨ Below top below := by
  cases elements with
  | nil => cases h
  | cons element elements =>
    rcases List.mem_append.mp h with h | h
    · exact ⟨element, List.mem_cons_self, mem_iter h⟩
    · obtain ⟨top, htop, hbelow⟩ := mem_iterAll h
      exact ⟨top, List.mem_cons_of_mem element htop, hbelow⟩

end

theorem iter_subset {element : Element} {elements : List Element} (h : element ∈ elements) :
    element.iter ⊆ iterAll elements := by
  induction elements with
  | nil => cases h
  | cons top elements ih =>
    intro below hbelow
    rcases List.mem_cons.mp h with rfl | h
    · exact List.mem_append_left _ hbelow
    · exact List.mem_append_right _ (ih h hbelow)

theorem Below.mem_iterAll {element below : Element} (h : Below element below) :
    below ∈ iterAll element.children := by
  induction h with
  | child h =>
    apply iter_subset h
    rw [iter_eq]
    exact List.mem_cons_self
  | deeper h _ ih =>
    apply iter_subset h
    rw [iter_eq]
    exact List.mem_cons_of_mem _ ih

/-- The elements below with this tag. -/
theorem mem_descendants_iff {element below : Element} {tag : PyStr} :
    below ∈ element.descendants tag ↔ Below element below ∧ below.tag = tag := by
  rw [descendants, List.mem_filter, decide_eq_true_iff]
  apply and_congr_left
  intro _
  constructor
  · intro h
    obtain ⟨top, htop, rfl | hbelow⟩ := mem_iterAll h
    · exact .child htop
    · exact .deeper htop hbelow
  · exact Below.mem_iterAll

/-- The type that a service element names. -/
def serviceType (service : Element) : PyStr := service.findtext (upnpTag "serviceType")

/-- The URLs of a service element, on the base of the device URL. -/
def serviceUrls (baseUrl : PyStr) (service : Element) : ServiceUrls where
  control := baseUrl ++ service.findtext (upnpTag "controlURL")
  event := baseUrl ++ service.findtext (upnpTag "eventSubURL")
  scpd := baseUrl ++ service.findtext (upnpTag "SCPDURL")

end Element

theorem serviceField_eq (baseUrl : PyStr) (service : Element) :
    serviceField baseUrl service = if service.serviceType = [] then none
      else some (service.serviceType, service.serviceUrls baseUrl) := rfl

/-! ### What is fetched -/

/-- The last service of a type counts. -/
theorem lookup_fields (baseUrl : PyStr) (services : List Element) {serviceType : PyStr}
    (hne : serviceType ≠ []) :
    (InsertionDict.ofFields (services.filterMap (serviceField baseUrl))).lookup serviceType =
      (services.reverse.find? fun service => service.serviceType = serviceType).map
        (Element.serviceUrls baseUrl) := by
  rw [InsertionDict.lookup_ofFields, ← List.filterMap_reverse]
  -- from the last service back; one without a type makes no field
  induction services.reverse with
  | nil => rfl
  | cons service rest ih =>
    rw [List.filterMap_cons, List.find?_cons]
    by_cases hempty : service.serviceType = []
    · have hnot : decide (service.serviceType = serviceType) = false :=
        decide_eq_false fun h => hne (h.symm.trans hempty)
      have hfield : serviceField baseUrl service = none := if_pos hempty
      rw [hfield, hnot, ih]
    · have hfield : serviceField baseUrl service =
          some (service.serviceType, service.serviceUrls baseUrl) := if_neg hempty
      rw [hfield]
      simp only
      rw [InsertionDict.lookup_field, ih]
      by_cases htype : service.serviceType = serviceType
      · rw [if_pos htype.symm, decide_eq_true htype]
        rfl
      · rw [if_neg fun h => htype h.symm, decide_eq_false htype]

theorem shortName_error {serviceType : PyStr} (h : 0x3A ∉ serviceType) :
    shortName serviceType = .error .indexError := by
  have hsplit : PyStr.split ":" serviceType = [serviceType] := by
    apply SplitText.split_single
    intro hpart
    exact h (hpart.subset (by decide : (0x3A : ℕ) ∈ pyStr ":"))
  rw [shortName, hsplit]
  rfl

theorem shortName_ok {serviceType : PyStr} (h : 0x3A ∈ serviceType) :
    ∃ name, shortName serviceType = .ok name := by
  obtain ⟨front, back, rfl, hfront⟩ := List.eq_append_cons_of_mem h
  have hcolon : pyStr ":" = [0x3A] := by decide
  have hsplit : PyStr.split ":" (front ++ 0x3A :: back) =
      front :: SplitText.split (pyStr ":") back := by
    rw [PyStr.split, hcolon]
    exact SplitText.split_append (by decide) (SplitText.apart_of_not_mem hfront) back
  refine ⟨_, if_pos ?_⟩
  rw [hsplit, List.length_cons, SplitText.split, List.length_cons]
  omega

/-- The log of the services needs a colon in every type. -/
theorem mapM_shortName (services : List (PyStr × ServiceUrls)) :
    ((∃ names, services.mapM (fun service => shortName service.1) = .ok names) ∧
        ∀ service ∈ services, 0x3A ∈ service.1) ∨
      services.mapM (fun service => shortName service.1) = .error .indexError ∧
        ∃ service ∈ services, 0x3A ∉ service.1 := by
  induction services with
  | nil => exact .inl ⟨⟨[], rfl⟩, List.forall_mem_nil _⟩
  | cons service services ih =>
    rw [List.mapM_cons]
    by_cases hcolon : 0x3A ∈ service.1
    · obtain ⟨name, hname⟩ := shortName_ok hcolon
      rw [hname]
      rcases ih with ⟨⟨names, hnames⟩, hall⟩ | ⟨herror, service', hmem, hno⟩
      · rw [hnames]
        refine .inl ⟨⟨name :: names, rfl⟩, List.forall_mem_cons.mpr ⟨hcolon, hall⟩⟩
      · rw [herror]
        exact .inr ⟨rfl, service', List.mem_cons_of_mem _ hmem, hno⟩
    · rw [shortName_error hcolon]
      exact .inr ⟨rfl, service, List.mem_cons_self, hcolon⟩

/-- What `_fetch_upnp_services` makes of a document. -/
structure Fetched (baseUrl : PyStr) (root : Element)
    (r : Except PyErr (List (PyStr × ServiceUrls))) : Prop where
  /-- The log breaks on a type without a colon. -/
  logged : (∃ services, r = .ok services) ↔
    ∀ service, root.Below service → service.tag = upnpTag "service" → service.serviceType ≠ [] →
      0x3A ∈ service.serviceType
  raised : ∀ e, r = .error e → e = .indexError
  keys : ∀ services, r = .ok services → (services.map Prod.fst).Nodup
  typed : ∀ services, r = .ok services → [] ∉ services.map Prod.fst
  last : ∀ services serviceType, r = .ok services → serviceType ≠ [] →
    services.lookup serviceType =
      ((root.descendants (upnpTag "service")).reverse.find? fun service =>
        service.serviceType = serviceType).map (Element.serviceUrls baseUrl)

theorem fetched_described {fromString : Bytes → Except PyErr Element} {xml : Bytes}
    {root : Element} (hxml : fromString xml = .ok root) (baseUrl : PyStr) :
    Fetched baseUrl root (describedServices fromString xml baseUrl) := by
  have hparsed : parseDeviceDescription fromString xml baseUrl = .ok (InsertionDict.ofFields
      ((root.descendants (upnpTag "service")).filterMap (serviceField baseUrl))) := by
    rw [parseDeviceDescription, hxml]
    rfl
  -- a field is that of a service element with a type
  have htype {field : PyStr × ServiceUrls} (h : field ∈ InsertionDict.ofFields
      ((root.descendants (upnpTag "service")).filterMap (serviceField baseUrl))) :
      ∃ service, root.Below service ∧ service.tag = upnpTag "service" ∧
        service.serviceType ≠ [] ∧ service.serviceType = field.1 := by
    obtain ⟨service, hmem, hfield⟩ := List.mem_filterMap.mp (InsertionDict.mem_ofFields h)
    obtain ⟨hbelow, htag⟩ := Element.mem_descendants_iff.mp hmem
    rw [serviceField_eq] at hfield
    split_ifs at hfield with hempty
    cases hfield
    exact ⟨service, hbelow, htag, hempty, rfl⟩
  rw [describedServices, hparsed]
  change Fetched baseUrl root (do
    let _ ← (InsertionDict.ofFields _).mapM fun service => shortName service.1
    return InsertionDict.ofFields _)
  rcases mapM_shortName (InsertionDict.ofFields
      ((root.descendants (upnpTag "service")).filterMap (serviceField baseUrl))) with
    ⟨⟨names, hnames⟩, hall⟩ | ⟨herror, field, hmem, hno⟩
  · rw [hnames]
    refine ⟨⟨fun _ service hbelow htag hne => ?_, fun _ => ⟨_, rfl⟩⟩, nofun, ?_, ?_, ?_⟩
    · have hfield : (service.serviceType, service.serviceUrls baseUrl) ∈
          (root.descendants (upnpTag "service")).filterMap (serviceField baseUrl) :=
        List.mem_filterMap.mpr
          ⟨service, Element.mem_descendants_iff.mpr ⟨hbelow, htag⟩, if_neg hne⟩
      obtain ⟨field, hfield', hkey⟩ := InsertionDict.mem_keys_ofFields hfield
      have hcolon := hall field hfield'
      rwa [hkey] at hcolon
    · rintro services h
      cases h
      exact InsertionDict.nodup_ofFields _
    · rintro services h hkey
      cases h
      obtain ⟨field, hfield, hempty⟩ := List.mem_map.mp hkey
      obtain ⟨service, -, -, hne, hsame⟩ := htype hfield
      exact hne (hsame.trans hempty)
    · rintro services serviceType h hne
      cases h
      exact lookup_fields baseUrl (root.descendants (upnpTag "service")) hne
  · rw [herror]
    refine ⟨⟨nofun, fun hall => ?_⟩, ?_, nofun, nofun, nofun⟩
    · obtain ⟨service, hbelow, htag, hne, hsame⟩ := htype hmem
      exact absurd (hsame ▸ hall service hbelow htag hne) hno
    · rintro e h
      cases h
      rfl

/-- `_fetch_upnp_services`, once what is read of the answer is a document, whatever elements it
has: it returns exactly if every type of a service that is not empty has a colon, and raises an
`IndexError` otherwise; and what it returns has for every type the URLs of its last service. -/
theorem fetch_upnp_services_described {fromString : Bytes → Except PyErr Element} {xml : Bytes}
    {root : Element} (hxml : fromString xml = .ok root) {deviceUrl : PyStr} {t : List NetEvent}
    {r : Except PyErr (List (PyStr × ServiceUrls))}
    (hr : Run (fetchUpnpServices fromString (.str deviceUrl)) t r)
    (hanswer : ∀ url headers timeout size x,
      (⟨.httpGet url headers timeout size, x⟩ : NetEvent) ∈ t → x = .ok xml) :
    Fetched (beforeLastSlash deviceUrl) root r := by
  obtain ⟨x, u, rfl, hu⟩ := run_call_iff.mp hr
  obtain rfl := hanswer _ _ _ _ x List.mem_cons_self
  obtain ⟨-, rfl⟩ := run_fromResult_iff.mp hu
  exact fetched_described hxml (beforeLastSlash deviceUrl)

/-- An element with a text only. -/
def textElement (name text : String) : Element :=
  .mk (upnpTag name) (if text = "" then none else some (pyStr text)) []

/-- An element with other elements, and blanks where its text would be. -/
def listElement (name : String) (children : List Element) : Element :=
  .mk (upnpTag name) (some (pyStr "\n ")) children

def sampleService (name controlUrl eventUrl scpdUrl : String) : Element :=
  listElement "service"
    [ textElement "serviceType" ("urn:schemas-upnp-org:service:" ++ name ++ ":1"),
      textElement "serviceId" ("urn:upnp-org:serviceId:" ++ name),
      textElement "controlURL" controlUrl, textElement "eventSubURL" eventUrl,
      textElement "SCPDURL" scpdUrl ]

/-- A description with a device inside the device. -/
def sampleDocument : Element :=
  listElement "root"
    [ listElement "specVersion" [textElement "major" "1", textElement "minor" "0"],
      listElement "device"
        [ textElement "friendlyName" "Gear 360",
          listElement "serviceList"
            [sampleService "ContentDirectory" "/upnp/control/cd" "/upnp/event/cd" "/cd.xml"],
          listElement "deviceList"
            [ listElement "device"
                [ listElement "serviceList"
                    [sampleService "ConnectionManager" "/upnp/control/cm" "" ""] ] ] ] ]

def sampleXml : Bytes := List.flatMap utf8
  [ "<root xmlns=\"urn:schemas-upnp-org:device-1-0\">\n ", "<specVersion>\n ", "<major>1</major>",
    "<minor>0</minor></specVersion>", "<device>\n ", "<friendlyName>Gear 360</friendlyName>",
    "<serviceList>\n ", "<service>\n ", "<serviceType>",
    "urn:schemas-upnp-org:service:ContentDirectory:1", "</serviceType>", "<serviceId>",
    "urn:upnp-org:serviceId:ContentDirectory", "</serviceId>",
    "<controlURL>/upnp/control/cd</controlURL>", "<eventSubURL>/upnp/event/cd</eventSubURL>",
    "<SCPDURL>/cd.xml</SCPDURL>", "</service></serviceList>", "<deviceList>\n ", "<device>\n ",
    "<serviceList>\n ", "<service>\n ", "<serviceType>",
    "urn:schemas-upnp-org:service:ConnectionManager:1", "</serviceType>", "<serviceId>",
    "urn:upnp-org:serviceId:ConnectionManager", "</serviceId>",
    "<controlURL>/upnp/control/cm</controlURL>", "<eventSubURL/>", "<SCPDURL/>",
    "</service></serviceList>", "</device></deviceList>", "</device></root>" ]

/-- A parser that knows one document. -/
def parserOf (xml : Bytes) (root : Element) (data : Bytes) : Except PyErr Element :=
  if data = xml then .ok root else .error (.other "ParseError")

theorem fetch_upnp_services_described_sample : ∃ services,
    (exec netPlayback (fetchUpnpServices (parserOf sampleXml sampleDocument)
      (.str (pyStr "http://192.168.107.1:7676/smp_2_")))
      ⟨⟨[], []⟩, [], [], [sampleXml]⟩).result = .ok services ∧
    (services.lookup (pyStr CONTENT_DIRECTORY_TYPE)).map ServiceUrls.control =
      some (pyStr "http://192.168.107.1:7676/upnp/control/cd") := by
  have hxml : parserOf sampleXml sampleDocument sampleXml = .ok sampleDocument := if_pos rfl
  have hfetched := fetch_upnp_services_described hxml
    (exec_run netPlayback (fetchUpnpServices (parserOf sampleXml sampleDocument)
      (.str (pyStr "http://192.168.107.1:7676/smp_2_"))) ⟨⟨[], []⟩, [], [], [sampleXml]⟩) ?_
  · have htypes : ∀ service ∈ sampleDocument.descendants (upnpTag "service"),
        service.serviceType ≠ [] → 0x3A ∈ service.serviceType := by decide +kernel
    obtain ⟨services, hservices⟩ := hfetched.logged.mpr fun service hbelow htag =>
      htypes service (Element.mem_descendants_iff.mpr ⟨hbelow, htag⟩)
    refine ⟨services, hservices, ?_⟩
    rw [hfetched.last services _ hservices (by decide)]
    decide +kernel
  · intro url headers timeout size x hx
    have hnothing (y : Except PyErr (List (PyStr × ServiceUrls))) (s : NetScript) :
        (exec netPlayback (fromResult y : Net _) s).trace = [] := by cases y <;> rfl
    rcases List.mem_cons.mp hx with h | h
    · cases h
      rfl
    · change _ ∈ (exec netPlayback (fromResult (describedServices _ _ _)) _).trace at h
      rw [hnothing] at h
      cases h

/-! ### What is streamed -/

/-- The best quality that an answer announces; the last element of a quality counts. -/
def announcedUrl (root : Element) : Option PyStr :=
  let quality (name : String) := (root.iter.filterMap streamField).reverse.lookup (pyStr name)
  (quality "QualityHighUrl").or ((quality "QualityMiddelUrl").or (quality "QualityLowUrl"))

section
variable {fromString : Bytes → Except PyErr Element} {cameraIp controlUrl : PyStr}
  {services : List (PyStr × PyStr)} {fuel : ℕ} {t : List NetEvent}

/-- Only a URL with something in it gets into the dictionary. -/
theorem streamField_lookup_ne_nil {root : Element} {name : String} {url : PyStr}
    (h : (root.iter.filterMap streamField).reverse.lookup (pyStr name) = some url) : url ≠ [] := by
  obtain ⟨front, back, hfields, -⟩ := List.lookup_eq_some_iff.mp h
  have hmem : (pyStr name, url) ∈ (root.iter.filterMap streamField).reverse := by
    rw [hfields]
    exact List.mem_append_right _ List.mem_cons_self
  obtain ⟨element, -, hfield⟩ := List.mem_filterMap.mp (List.mem_reverse.mp hmem)
  rw [streamField] at hfield
  split_ifs at hfield with hurl
  obtain ⟨-, rfl⟩ := Prod.mk.inj (Option.some.inj hfield)
  exact hurl.2

theorem announcedUrl_ne_nil {root : Element} {url : PyStr} (h : announcedUrl root = some url) :
    url ≠ [] := by
  simp only [announcedUrl, Option.or_eq_some_iff] at h
  rcases h with h | ⟨-, h | ⟨-, h⟩⟩ <;> exact streamField_lookup_ne_nil h

/-- What the dictionary is asked for is what the answer announces. -/
theorem bestUrl_parsed {response : Bytes} {urls : List (PyStr × PyStr)}
    (h : parseStreamUrls fromString response = .ok urls) :
    ∃ root, fromString response = .ok root ∧ bestUrl urls = announcedUrl root := by
  rw [parseStreamUrls] at h
  cases hroot : fromString response with
  | error e =>
    rw [hroot] at h
    cases h
  | ok root =>
    rw [hroot] at h
    cases h
    -- an empty URL would not count, but none is in the dictionary
    have hfilter (name : String) :
        ((InsertionDict.ofFields (root.iter.filterMap streamField)).lookup (pyStr name)).filter
          (fun url => url ≠ []) =
        (root.iter.filterMap streamField).reverse.lookup (pyStr name) := by
      rw [InsertionDict.lookup_ofFields]
      cases hlookup : (root.iter.filterMap streamField).reverse.lookup (pyStr name) with
      | none => rfl
      | some url =>
        exact Option.filter_some_pos (decide_eq_true (streamField_lookup_ne_nil hlookup))
    refine ⟨root, rfl, ?_⟩
    simp only [bestUrl, announcedUrl]
    rw [hfilter, hfilter, InsertionDict.lookup_ofFields]

/-- Only the parser fails. -/
theorem parseStreamUrls_error {response : Bytes} {e : PyErr}
    (h : parseStreamUrls fromString response = .error e) : fromString response = .error e := by
  unfold parseStreamUrls at h
  cases hroot : fromString response with
  | error e' =>
    rw [hroot] at h
    cases h
    rfl
  | ok root =>
    rw [hroot] at h
    cases h

variable (fromString) in
/-- The answer is a document without a URL. -/
def Unannounced (answer : Except PyErr Bytes) : Prop :=
  ∃ response root, answer = .ok response ∧ fromString response = .ok root ∧
    announcedUrl root = none

variable (fromString cameraIp) in
/-- The URL is the best one of the answer, or the usual one where the request failed. -/
def Chosen (answer : Except PyErr Bytes) (streamUrl : PyStr) : Prop :=
  (∃ response root, answer = .ok response ∧ fromString response = .ok root ∧
      announcedUrl root = some streamUrl) ∨
    ∃ e, e.isOSError = true ∧ streamUrl = fallbackUrl cameraIp ∧
      (answer = .error e ∨ ∃ response, answer = .ok response ∧ fromString response = .error e)

def Logs (t : List NetEvent) : Prop := ∀ e ∈ t, ∃ text, e.1 = .logError text

def infoPost (controlUrl : PyStr) : NetOp :=
  soapPost controlUrl CONTENT_DIRECTORY_TYPE "GetInfomation" [("GPSINFO", "0,0")]

def statePost (controlUrl : PyStr) : NetOp :=
  soapPost controlUrl CONTENT_DIRECTORY_TYPE "SetOperationState" [("StateEvent", "changeToRVF")]

theorem logs_nil : Logs [] := List.forall_mem_nil _

theorem run_logError {text : PyStr} {r : Except PyErr Unit} (hr : Run (Net.logError text) t r) :
    Logs t := by
  rw [run_perform_iff.mp hr]
  exact List.forall_mem_singleton.mpr ⟨text, rfl⟩

theorem run_setOperationState {r : Except PyErr Unit}
    (hr : Run (setOperationState controlUrl) t r) :
    ∃ x logs, t = ⟨statePost controlUrl, x⟩ :: logs ∧ Logs logs := by
  obtain ⟨x, u, rfl, hu⟩ := run_call_iff.mp hr
  refine ⟨x, u, rfl, ?_⟩
  cases x with
  | ok response =>
    obtain ⟨rfl, -⟩ := run_ret_iff.mp hu
    exact logs_nil
  | error e =>
    change Run (if e.isOSError then Net.logError _ else .raise e) u r at hu
    split_ifs at hu
    · exact run_logError hu
    · obtain ⟨rfl, -⟩ := run_raise_iff.mp hu
      exact logs_nil

/-- There is something in the URL that is chosen. -/
theorem Chosen.ne_nil {answer : Except PyErr Bytes} {streamUrl : PyStr}
    (h : Chosen fromString cameraIp answer streamUrl) : streamUrl ≠ [] := by
  rcases h with ⟨_, root, -, -, hannounced⟩ | ⟨_, -, rfl, -⟩
  · exact announcedUrl_ne_nil hannounced
  · exact List.append_ne_nil_of_right_ne_nil _ (by decide)

variable (fromString cameraIp) in
/-- What may be returned for an answer. -/
structure Requested (answer : Except PyErr Bytes) (r : Except PyErr (Option PyStr)) : Prop where
  chosen : ∀ streamUrl, r = .ok (some streamUrl) → Chosen fromString cameraIp answer streamUrl
  unannounced : r = .ok none → Unannounced fromString answer

/-- An `OSError` of the request or of the parser is logged, and the usual URL is returned. -/
theorem run_requestFailed {answer : Except PyErr Bytes} {e : PyErr}
    {r : Except PyErr (Option PyStr)}
    (hcause : answer = .error e ∨ ∃ response, answer = .ok response ∧ fromString response = .error e)
    (hr : Run (if e.isOSError then do
        Net.logError (pyStr ("GetInformation error: " ++ e.text))
        return some (fallbackUrl cameraIp)
      else .raise e) t r) :
    Logs t ∧ Requested fromString cameraIp answer r := by
  split_ifs at hr with hos
  · obtain ⟨x, u, rfl, hu⟩ := run_call_iff.mp hr
    cases x with
    | error e' =>
      obtain ⟨rfl, rfl⟩ := run_raise_iff.mp hu
      exact ⟨List.forall_mem_singleton.mpr ⟨_, rfl⟩, nofun, nofun⟩
    | ok _ =>
      obtain ⟨rfl, rfl⟩ := run_ret_iff.mp hu
      refine ⟨List.forall_mem_singleton.mpr ⟨_, rfl⟩, ?_, nofun⟩
      rintro streamUrl h
      cases h
      exact .inr ⟨e, hos, rfl, hcause⟩
  · obtain ⟨rfl, rfl⟩ := run_raise_iff.mp hr
    exact ⟨logs_nil, nofun, nofun⟩

theorem run_requestStreamUrl {r : Except PyErr (Option PyStr)}
    (hr : Run (requestStreamUrl fromString cameraIp controlUrl) t r) :
    ∃ answer logs, t = ⟨infoPost controlUrl, answer⟩ :: logs ∧ Logs logs ∧
      Requested fromString cameraIp answer r := by
  obtain ⟨answer, u, rfl, hu⟩ := run_call_iff.mp hr
  refine ⟨answer, u, rfl, ?_⟩
  cases answer with
  | error e => exact run_requestFailed (.inl rfl) hu
  | ok response =>
    change Run ((fromResult (parseStreamUrls fromString response) >>= fun urls =>
      Prog.ret (bestUrl urls)).tryExcept _) u r at hu
    cases hparsed : parseStreamUrls fromString response with
    | error e =>
      rw [hparsed] at hu
      exact run_requestFailed (.inr ⟨response, rfl, parseStreamUrls_error hparsed⟩) hu
    | ok urls =>
      rw [hparsed] at hu
      obtain ⟨rfl, rfl⟩ := run_ret_iff.mp hu
      obtain ⟨root, hroot, hbest⟩ := bestUrl_parsed hparsed
      rw [hbest]
      exact ⟨logs_nil, fun streamUrl h => .inl ⟨response, root, rfl, hroot, Except.ok.inj h⟩,
        fun h => ⟨response, root, rfl, hroot, Except.ok.inj h⟩⟩

variable (fromString cameraIp) in
/-- A run from the second request on, for a call that ends with `r`. -/
def Asked (controlUrl : PyStr) (fuel : ℕ) (r : Except PyErr Unit) (t : List NetEvent) : Prop :=
  ∃ answer logs rest, t = ⟨infoPost controlUrl, answer⟩ :: logs ++ rest ∧ Logs logs ∧
    ((Logs rest ∧ ((∃ e, r = .error e) ∨ Unannounced fromString answer)) ∨
      ∃ streamUrl, Chosen fromString cameraIp answer streamUrl ∧
        Run (playLiveStream fuel streamUrl) rest r)

/-- Nothing without a control URL; else two requests, as far as they get, and the stream. -/
theorem run_startLiveStream {r : Except PyErr Unit}
    (hr : Run (startLiveStream fromString fuel cameraIp services) t r) :
    (services.lookup (pyStr CONTENT_DIRECTORY_TYPE) = none ∧ t = []) ∨
      ∃ controlUrl state logs rest,
        services.lookup (pyStr CONTENT_DIRECTORY_TYPE) = some controlUrl ∧
        t = ⟨statePost controlUrl, state⟩ :: logs ++ rest ∧ Logs logs ∧
        ((rest = [] ∧ ∃ e, r = .error e) ∨ Asked fromString cameraIp controlUrl fuel r rest) := by
  rw [startLiveStream] at hr
  cases hlookup : services.lookup (pyStr CONTENT_DIRECTORY_TYPE) with
  | none =>
    rw [hlookup] at hr
    exact .inl ⟨rfl, (run_ret_iff.mp hr).1⟩
  | some controlUrl =>
    rw [hlookup] at hr
    rcases run_bind_cases hr with ⟨e, he, hraised⟩ | ⟨u, _, v, hu, hv, rfl⟩
    · obtain ⟨state, logs, rfl, hlogs⟩ := run_setOperationState he
      exact .inr ⟨controlUrl, state, logs, [], rfl, (List.append_nil _).symm, hlogs,
        .inl ⟨rfl, e, hraised⟩⟩
    obtain ⟨state, logs, rfl, hlogs⟩ := run_setOperationState hu
    refine .inr ⟨controlUrl, state, logs, v, rfl, rfl, hlogs, .inr ?_⟩
    rcases run_bind_cases hv with ⟨e, he, hraised⟩ | ⟨u, chosen, w, hu, hw, rfl⟩
    · obtain ⟨answer, logs, rfl, hlogs, -⟩ := run_requestStreamUrl he
      exact ⟨answer, logs, [], (List.append_nil _).symm, hlogs, .inl ⟨logs_nil, .inl ⟨e, hraised⟩⟩⟩
    obtain ⟨answer, logs, rfl, hlogs, hrequested⟩ := run_requestStreamUrl hu
    refine ⟨answer, logs, w, rfl, hlogs, ?_⟩
    -- nothing chosen is nothing announced, and what is chosen is not empty
    match chosen with
    | none => exact .inl ⟨run_logError hw, .inr (hrequested.unannounced rfl)⟩
    | some [] => exact absurd rfl (hrequested.chosen [] rfl).ne_nil
    | some (c :: streamUrl) => exact .inr ⟨c :: streamUrl, hrequested.chosen _ rfl, hw⟩

variable (fromString services) in
/-- Why nothing is opened: there is nowhere to ask, a request or what is made of its answer fails,
or the answer has no URL. -/
def Unopened (t : List NetEvent) (r : Except PyErr Unit) : Prop :=
  services.lookup (pyStr CONTENT_DIRECTORY_TYPE) = none ∨ (∃ e, r = .error e) ∨
    ∃ controlUrl answer, (⟨infoPost controlUrl, answer⟩ : NetEvent) ∈ t ∧
      Unannounced fromString answer

/-- In every run, `_start_live_stream` either asks the camera at most and opens nothing, or first
asks it to stream, then for its URLs, and is then a run of `play_live_stream` on the best URL that
the answer announces, or on the usual one where that request failed. -/
theorem start_live_stream_announced {r : Except PyErr Unit}
    (hr : Run (startLiveStream fromString fuel cameraIp services) t r) :
    ((∀ e ∈ t, (∃ text, e.1 = .logError text) ∨ ∃ controlUrl,
        services.lookup (pyStr CONTENT_DIRECTORY_TYPE) = some controlUrl ∧
          (e.1 = statePost controlUrl ∨ e.1 = infoPost controlUrl)) ∧
        Unopened fromString services t r) ∨
      ∃ controlUrl streamUrl state answer logs logs' play,
        services.lookup (pyStr CONTENT_DIRECTORY_TYPE) = some controlUrl ∧
        t = ⟨statePost controlUrl, state⟩ :: logs ++
          (⟨infoPost controlUrl, answer⟩ :: logs' ++ play) ∧
        Logs logs ∧ Logs logs' ∧ streamUrl ≠ [] ∧ Chosen fromString cameraIp answer streamUrl ∧
        Run (playLiveStream fuel streamUrl) play r := by
  rcases run_startLiveStream hr with
    ⟨hlookup, rfl⟩ | ⟨controlUrl, state, logs, rest, hlookup, rfl, hlogs, hrest⟩
  · exact .inl ⟨List.forall_mem_nil _, .inl hlookup⟩
  -- a request and what is logged after it
  have hasked {o : NetOp} {x : Except PyErr (NetAns o)} {logs : List NetEvent}
      (ho : o = statePost controlUrl ∨ o = infoPost controlUrl) (hlogs : Logs logs) :
      ∀ e ∈ (⟨o, x⟩ :: logs : List NetEvent), (∃ text, e.1 = .logError text) ∨ ∃ controlUrl,
        services.lookup (pyStr CONTENT_DIRECTORY_TYPE) = some controlUrl ∧
          (e.1 = statePost controlUrl ∨ e.1 = infoPost controlUrl) := by
    intro e he
    rcases List.mem_cons.mp he with rfl | he
    · exact .inr ⟨controlUrl, hlookup, ho⟩
    · exact .inl (hlogs e he)
  have hfirst := hasked (o := statePost controlUrl) (x := state) (.inl rfl) hlogs
  rcases hrest with ⟨rfl, hraised⟩ | ⟨answer, logs', play, rfl, hlogs', hplay⟩
  · exact .inl ⟨List.forall_mem_append.mpr ⟨hfirst, List.forall_mem_nil _⟩, .inr (.inl hraised)⟩
  rcases hplay with ⟨hquiet, hwhy⟩ | ⟨streamUrl, hchosen, hplay⟩
  · have hsecond := hasked (o := infoPost controlUrl) (x := answer) (.inr rfl) hlogs'
    refine .inl ⟨List.forall_mem_append.mpr ⟨hfirst, List.forall_mem_append.mpr ⟨hsecond, ?_⟩⟩, ?_⟩
    · exact fun e he => .inl (hquiet e he)
    · rcases hwhy with hraised | hnone
      · exact .inr (.inl hraised)
      · exact .inr (.inr ⟨controlUrl, answer, by simp, hnone⟩)
  · exact .inr ⟨controlUrl, streamUrl, state, answer, logs, logs', play, hlookup, rfl, hlogs,
      hlogs', hchosen.ne_nil, hchosen, hplay⟩

end

def sampleAnswer : Bytes :=
  utf8 "<r><QualityHighUrl>http://192.168.107.1:7679/livestream_high.avi</QualityHighUrl></r>"

def sampleAnswerTree : Element :=
  .mk (pyStr "r") none [.mk (pyStr "QualityHighUrl")
    (some (pyStr "http://192.168.107.1:7679/livestream_high.avi")) []]

def sampleStart : Outcome NetAns PyErr NetScript Unit :=
  exec netPlayback (startLiveStream (parserOf sampleAnswer sampleAnswerTree) 40
      (pyStr "192.168.107.1")
        [(pyStr CONTENT_DIRECTORY_TYPE, pyStr "http://192.168.107.1:7676/cd")])
    ⟨⟨[], []⟩, [], [], [[], sampleAnswer] ++ sampleBodies⟩

theorem start_live_stream_announced_sample :
    ∃ streamUrl play, Run (playLiveStream 40 streamUrl) play sampleStart.result ∧
      play <:+ sampleStart.trace := by
  have hplays : sampleStart.trace.any (fun e => match e.1 with
    | .getResponse => true
    | _ => false) = true := by decide +kernel
  rcases start_live_stream_announced (exec_run netPlayback
      (startLiveStream (parserOf sampleAnswer sampleAnswerTree) 40 (pyStr "192.168.107.1")
        [(pyStr CONTENT_DIRECTORY_TYPE, pyStr "http://192.168.107.1:7676/cd")])
      ⟨⟨[], []⟩, [], [], [[], sampleAnswer] ++ sampleBodies⟩) with
    hquiet | ⟨_, streamUrl, _, _, logs, logs', play, -, htrace, -, -, -, -, hplay⟩
  · obtain ⟨e, he, hresponse⟩ := List.any_eq_true.mp hplays
    rcases hquiet.1 e he with ⟨text, htext⟩ | ⟨controlUrl, -, hpost | hpost⟩
    · rw [htext] at hresponse
      cases hresponse
    · rw [hpost] at hresponse
      cases hresponse
    · rw [hpost] at hresponse
      cases hresponse
  · refine ⟨streamUrl, play, hplay, ?_⟩
    rw [sampleStart, htrace, ← List.append_assoc]
    exact List.suffix_append _ _

end Gear360
