import ThermalManager.Policy.Decision
import ThermalManager.Lib.Overlay

/-!
# The service configuration

The configuration lives in eight places, each with a setter of its own that replaces what is there.
Here it is the family of these parts. An XML tree is what `libxml2` hands over: attributes in
document order, and the content of a node as it is computed there.
-/

namespace ThermalManager

/-! ### XML trees -/

structure XmlNode where
  name : String
  properties : List (String × String) := []
  content : Option String := some ""
  xmlChildrenNode : List XmlNode := []

def xmlGetProp (node : XmlNode) (name : String) : Option String :=
  (node.properties.find? fun property => property.1 == name).map Prod.snd

/-- A configuration file: its root element, if it can be read and has one. -/
abbrev XmlFile := Option XmlNode

/-! ### What is stored -/

abbrev BaseInfoMap := Map String String
abbrev SensorClusterMap := Map String ThermalConfigSensorCluster
abbrev FanSensorInfo := Map String Int
abbrev FanFaultInfoMap := Map Int FanSensorInfo

structure StateItem where
  name : String
  params : String := ""
  isExistParam : Bool := false
  deriving DecidableEq

structure ActionItem where
  name : String
  params : String := ""
  uid : String := ""
  protocol : String := ""
  strict : Bool := false
  enableEvent : Bool := false
  deriving DecidableEq

structure IdleState where
  level : Int
  soc : Int
  charging : Int
  current : Int
  deriving DecidableEq

/-- The places the configuration is kept in. -/
inductive ConfigPart where
  | baseInfo
  | simulationXml
  | sensorClusterMap
  | stateItem
  | idleStateConfig
  | actionItem
  | policyMap
  | faultInfoMap
  deriving DecidableEq

abbrev ConfigPart.Value : ConfigPart → Type
  | .baseInfo => BaseInfoMap
  | .simulationXml => Bool
  | .sensorClusterMap => SensorClusterMap
  | .stateItem => List StateItem
  | .idleStateConfig => IdleState
  | .actionItem => List ActionItem
  | .policyMap => PolicyConfigMap
  | .faultInfoMap => FanFaultInfoMap

abbrev ServiceConfig := (part : ConfigPart) → part.Value

def ServiceConfig.set (config : ServiceConfig) (part : ConfigPart) (value : part.Value) :
    ServiceConfig :=
  Function.update config part value

end ThermalManager
