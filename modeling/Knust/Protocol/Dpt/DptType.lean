import Knust.Error

namespace Knust.Protocol.Dpt

inductive DptUnit
  | ampere | milliampere | millivolt | volt | voltPerKelvin | voltPerMeter | voltAmpere
  | voltAmpereHour | voltAmpereReactiveHour | watt | wattPerSquareMeter | wattPerMeterKelvin
  | wattHour | kilowatt | kilowattHour | kilovoltAmpereHour | kilovoltAmpereReactiveHour
  | megawattHour | ohm | ohmMeter | siemens | siemensPerMeter | weber | tesla | henry | farad
  | degreeCelsius | degreeFahrenheit | kelvin | kelvinPerPercent | kelvinPerHour | newton
  | newtonPerMeter | newtonPerSecond | newtonMeter | pascal | joule | joulePerKelvin
  | joulePerMol | jouleSecond | meterPerSecond | meterPerSecondSquared | kilometerPerHour
  | radianPerSecond | radianPerSecondSquared | meter | millimeter | squareMeter
  | squareMeterPerNewton | cubicMeter | cubicMeterPerHour | cubicMeterPerSecond | liter
  | literPerHour | literPerSquareMeter | literPerSecond | kilogram | kilogramPerCubicMeter
  | kilogramPerSecond | gramPerCubicMeter | microgramPerCubicMeter | lux | lumen | lumenSecond
  | candela | candelaPerSquareMeter | second | millisecond | minute | hour | hertz
  | inverseSecond | degree | radian | steradian | amperePerMeter | amperePerSquareMeter
  | ampereSquareMeter | coulomb | coulombPerSquareMeter | coulombPerCubicMeter | coulombMeter
  | mol | partsPerMillion | percent | speedOfLight | counterPulses | pulses
  deriving DecidableEq

def DptUnit.symbol : DptUnit → String
  | .percent => "%"
  | .ampere => "A"
  | .amperePerMeter => "A/m"
  | .amperePerSquareMeter => "A/m²"
  | .ampereSquareMeter => "A m²"
  | .coulomb => "C"
  | .coulombPerSquareMeter => "C/m²"
  | .coulombPerCubicMeter => "C/m³"
  | .coulombMeter => "C m"
  | .farad => "F"
  | .henry => "H"
  | .hertz => "Hz"
  | .joule => "J"
  | .joulePerKelvin => "J/K"
  | .joulePerMol => "J/mol"
  | .jouleSecond => "J s"
  | .kelvin => "K"
  | .kelvinPerPercent => "K/%"
  | .kelvinPerHour => "K/h"
  | .liter => "L"
  | .literPerHour => "L/h"
  | .literPerSquareMeter => "L/m²"
  | .literPerSecond => "L/s"
  | .megawattHour => "MWh"
  | .newton => "N"
  | .newtonPerMeter => "N/m"
  | .newtonPerSecond => "N/s"
  | .newtonMeter => "Nm"
  | .pascal => "Pa"
  | .siemens => "S"
  | .siemensPerMeter => "S/m"
  | .tesla => "T"
  | .volt => "V"
  | .voltPerKelvin => "V/K"
  | .voltPerMeter => "V/m"
  | .voltAmpere => "VA"
  | .voltAmpereHour => "VAh"
  | .voltAmpereReactiveHour => "VARh"
  | .watt => "W"
  | .wattPerSquareMeter => "W/m²"
  | .wattPerMeterKelvin => "W/mK"
  | .weber => "Wb"
  | .wattHour => "Wh"
  | .speedOfLight => "c"
  | .candela => "cd"
  | .candelaPerSquareMeter => "cd/m²"
  | .counterPulses => "counter pulses"
  | .gramPerCubicMeter => "g/m³"
  | .hour => "h"
  | .kilovoltAmpereHour => "kVAh"
  | .kilovoltAmpereReactiveHour => "kVARh"
  | .kilowatt => "kW"
  | .kilowattHour => "kWh"
  | .kilogram => "kg"
  | .kilogramPerCubicMeter => "kg/m³"
  | .kilogramPerSecond => "kg/s"
  | .kilometerPerHour => "km/h"
  | .lumen => "lm"
  | .lumenSecond => "lm s"
  | .lux => "lx"
  | .meter => "m"
  | .meterPerSecond => "m/s"
  | .meterPerSecondSquared => "m/s²"
  | .milliampere => "mA"
  | .millivolt => "mV"
  | .minute => "min"
  | .millimeter => "mm"
  | .mol => "mol"
  | .millisecond => "ms"
  | .squareMeter => "m²"
  | .squareMeterPerNewton => "m²/N"
  | .cubicMeter => "m³"
  | .cubicMeterPerHour => "m³/h"
  | .cubicMeterPerSecond => "m³/s"
  | .partsPerMillion => "ppm"
  | .pulses => "pulses"
  | .radian => "rad"
  | .radianPerSecond => "rad/s"
  | .radianPerSecondSquared => "rad/s²"
  | .second => "s"
  | .steradian => "sr"
  | .inverseSecond => "s⁻¹"
  | .degree => "°"
  | .degreeCelsius => "°C"
  | .degreeFahrenheit => "°F"
  | .ohm => "Ω"
  | .ohmMeter => "Ωm"
  | .microgramPerCubicMeter => "μg/m³"

inductive DptType
  -- DPT 1.xxx - Boolean
  | switch | bool | enable | ramp | alarm | binaryValue | step | upDown | openClose | start
  | state | invert | dimSendStyle | inputSource | reset | ack | trigger | occupancy | windowDoor
  | logicalFunction | sceneAB | shutterBlindsMode | dayNight | heatCool | consumerProducer
  | energyDirection
  -- DPT 2.xxx - 2-bit control (control bit + value bit)
  | switchControl | boolControl | enableControl | rampControl | alarmControl | binaryValueControl
  | stepControl | direction1Control | direction2Control | startControl | stateControl
  | invertControl
  -- DPT 3.xxx - Control
  | controlDimming | controlBlinds
  -- DPT 5.xxx - Unsigned 8-bit
  | scaling | angle | percentU8 | decimalFactor | tariff | value1Ucount
  -- DPT 6.xxx - Signed 8-bit
  | percentV8 | value1Count
  -- DPT 7.xxx - Unsigned 16-bit
  | value2Ucount | timePeriodMsec | timePeriod10Msec | timePeriod100Msec | timePeriodSec
  | timePeriodMin | timePeriodHrs | propDataType | lengthMm | uElCurrentmA | brightness
  | colorTemperature
  -- DPT 8.xxx - Signed 16-bit
  | value2Count | deltaTimeMsec | deltaTime10Msec | deltaTime100Msec | deltaTimeSec
  | deltaTimeMin | deltaTimeHrs | percentV16 | rotationAngle | lengthM
  -- DPT 9.xxx - 2-byte float
  | temperature | temperatureDifference2Byte | temperatureA | lux | wsp | pressure2Byte
  | humidity | partsPerMillion | airFlow | time1 | time2 | voltage | current | powerDensity
  | kelvinPerPercent | power2Byte | volumeFlow | rainAmount | temperatureF | wspKmh
  | absoluteHumidity | concentrationUGM3 | enthalpy
  -- DPT 10.xxx - Time
  | timeOfDay
  -- DPT 11.xxx - Date
  | date
  -- DPT 12.xxx - Unsigned 32-bit
  | value4Ucount | longTimePeriodSec | longTimePeriodMin | longTimePeriodHrs | volumeLiquidLitre
  | volumeM3
  -- DPT 13.xxx - Signed 32-bit
  | value4Count | flowRateM3H | activeEnergy | apparantEnergy | reactiveEnergy | activeEnergykWh
  | apparantEnergykVAh | reactiveEnergykVARh | activeEnergyMWh | longDeltaTimeSec
  | deltaVolumeLiquidLitre | deltaVolumeM3
  -- DPT 14.xxx - 4-byte float
  | acceleration | accelerationAngular | activationEnergy | activity | mol | amplitude | angleRad
  | angleDeg | angularMomentum | angularVelocity | area | capacitance | chargeDensitySurface
  | chargeDensityVolume | compressibility | conductance | electricalConductivity | density
  | electricCharge | electricCurrent | electricCurrentDensity | electricDipoleMoment
  | electricDisplacement | electricFieldStrength | electricFlux | electricFluxDensity
  | electricPolarization | electricPotential | electricPotentialDifference
  | electromagneticMoment | electromotiveForce | energy | force | frequency | angularFrequency
  | heatCapacity | heatFlowRate | heatQuantity | impedance | length | lightQuantity | luminance
  | luminousFlux | luminousIntensity | magneticFieldStrength | magneticFlux | magneticFluxDensity
  | magneticMoment | magneticPolarization | magnetization | magnetomotiveForce | mass | massFlux
  | momentum | phaseAngleRad | phaseAngleDeg | power | powerFactor | pressure | reactance
  | resistance | resistivity | selfInductance | solidAngle | soundIntensity | speed | stress
  | surfaceTension | commonTemperature | absoluteTemperature | temperatureDifference
  | thermalCapacity | thermalConductivity | thermoelectricPower | timeSeconds | torque | volume
  | volumeFlux | weight | work | apparentPower | volumeFluxMeter | volumeFluxLs
  -- DPT 16.xxx - String
  | stringAscii | stringLatin1
  -- DPT 17.xxx - Scene Number
  | sceneNumber
  -- DPT 18.xxx - Scene Control
  | sceneControl
  -- DPT 19.xxx - Date and Time
  | dateTime
  -- DPT 20.xxx - HVAC
  | hvacMode | hvacContrMode
  -- DPT 29.xxx - Signed 64-bit
  | activeEnergy8Byte | apparantEnergy8Byte | reactiveEnergy8Byte
  -- DPT 232.xxx - RGB Color
  | colorRGB
  -- DPT 235.xxx - Tariff Active Energy
  | tariffActiveEnergy
  -- DPT 242.xxx - XYY Color
  | colorXYY
  -- DPT 251.xxx - RGBW Color
  | colorRGBW
  deriving DecidableEq

namespace DptType

def discriminant : DptType → ℕ
  | .switch => 100_001
  | .bool => 100_002
  | .enable => 100_003
  | .ramp => 100_004
  | .alarm => 100_005
  | .binaryValue => 100_006
  | .step => 100_007
  | .upDown => 100_008
  | .openClose => 100_009
  | .start => 100_010
  | .state => 100_011
  | .invert => 100_012
  | .dimSendStyle => 100_013
  | .inputSource => 100_014
  | .reset => 100_015
  | .ack => 100_016
  | .trigger => 100_017
  | .occupancy => 100_018
  | .windowDoor => 100_019
  | .logicalFunction => 100_021
  | .sceneAB => 100_022
  | .shutterBlindsMode => 100_023
  | .dayNight => 100_024
  | .heatCool => 100_100
  | .consumerProducer => 101_200
  | .energyDirection => 101_201
  | .switchControl => 200_001
  | .boolControl => 200_002
  | .enableControl => 200_003
  | .rampControl => 200_004
  | .alarmControl => 200_005
  | .binaryValueControl => 200_006
  | .stepControl => 200_007
  | .direction1Control => 200_008
  | .direction2Control => 200_009
  | .startControl => 200_010
  | .stateControl => 200_011
  | .invertControl => 200_012
  | .controlDimming => 300_007
  | .controlBlinds => 300_008
  | .scaling => 500_001
  | .angle => 500_003
  | .percentU8 => 500_004
  | .decimalFactor => 500_005
  | .tariff => 500_006
  | .value1Ucount => 500_010
  | .percentV8 => 600_001
  | .value1Count => 600_010
  | .value2Ucount => 700_001
  | .timePeriodMsec => 700_002
  | .timePeriod10Msec => 700_003
  | .timePeriod100Msec => 700_004
  | .timePeriodSec => 700_005
  | .timePeriodMin => 700_006
  | .timePeriodHrs => 700_007
  | .propDataType => 700_010
  | .lengthMm => 700_011
  | .uElCurrentmA => 700_012
  | .brightness => 700_013
  | .colorTemperature => 700_600
  | .value2Count => 800_001
  | .deltaTimeMsec => 800_002
  | .deltaTime10Msec => 800_003
  | .deltaTime100Msec => 800_004
  | .deltaTimeSec => 800_005
  | .deltaTimeMin => 800_006
  | .deltaTimeHrs => 800_007
  | .percentV16 => 800_010
  | .rotationAngle => 800_011
  | .lengthM => 800_012
  | .temperature => 900_001
  | .temperatureDifference2Byte => 900_002
  | .temperatureA => 900_003
  | .lux => 900_004
  | .wsp => 900_005
  | .pressure2Byte => 900_006
  | .humidity => 900_007
  | .partsPerMillion => 900_008
  | .airFlow => 900_009
  | .time1 => 900_010
  | .time2 => 900_011
  | .voltage => 900_020
  | .current => 900_021
  | .powerDensity => 900_022
  | .kelvinPerPercent => 900_023
  | .power2Byte => 900_024
  | .volumeFlow => 900_025
  | .rainAmount => 900_026
  | .temperatureF => 900_027
  | .wspKmh => 900_028
  | .absoluteHumidity => 900_029
  | .concentrationUGM3 => 900_030
  | .enthalpy => 960_000
  | .timeOfDay => 1_000_001
  | .date => 1_100_001
  | .value4Ucount => 1_200_001
  | .longTimePeriodSec => 1_200_100
  | .longTimePeriodMin => 1_200_101
  | .longTimePeriodHrs => 1_200_102
  | .volumeLiquidLitre => 1_201_200
  | .volumeM3 => 1_201_201
  | .value4Count => 1_300_001
  | .flowRateM3H => 1_300_002
  | .activeEnergy => 1_300_010
  | .apparantEnergy => 1_300_011
  | .reactiveEnergy => 1_300_012
  | .activeEnergykWh => 1_300_013
  | .apparantEnergykVAh => 1_300_014
  | .reactiveEnergykVARh => 1_300_015
  | .activeEnergyMWh => 1_300_016
  | .longDeltaTimeSec => 1_300_100
  | .deltaVolumeLiquidLitre => 1_301_200
  | .deltaVolumeM3 => 1_301_201
  | .acceleration => 1_400_000
  | .accelerationAngular => 1_400_001
  | .activationEnergy => 1_400_002
  | .activity => 1_400_003
  | .mol => 1_400_004
  | .amplitude => 1_400_005
  | .angleRad => 1_400_006
  | .angleDeg => 1_400_007
  | .angularMomentum => 1_400_008
  | .angularVelocity => 1_400_009
  | .area => 1_400_010
  | .capacitance => 1_400_011
  | .chargeDensitySurface => 1_400_012
  | .chargeDensityVolume => 1_400_013
  | .compressibility => 1_400_014
  | .conductance => 1_400_015
  | .electricalConductivity => 1_400_016
  | .density => 1_400_017
  | .electricCharge => 1_400_018
  | .electricCurrent => 1_400_019
  | .electricCurrentDensity => 1_400_020
  | .electricDipoleMoment => 1_400_021
  | .electricDisplacement => 1_400_022
  | .electricFieldStrength => 1_400_023
  | .electricFlux => 1_400_024
  | .electricFluxDensity => 1_400_025
  | .electricPolarization => 1_400_026
  | .electricPotential => 1_400_027
  | .electricPotentialDifference => 1_400_028
  | .electromagneticMoment => 1_400_029
  | .electromotiveForce => 1_400_030
  | .energy => 1_400_031
  | .force => 1_400_032
  | .frequency => 1_400_033
  | .angularFrequency => 1_400_034
  | .heatCapacity => 1_400_035
  | .heatFlowRate => 1_400_036
  | .heatQuantity => 1_400_037
  | .impedance => 1_400_038
  | .length => 1_400_039
  | .lightQuantity => 1_400_040
  | .luminance => 1_400_041
  | .luminousFlux => 1_400_042
  | .luminousIntensity => 1_400_043
  | .magneticFieldStrength => 1_400_044
  | .magneticFlux => 1_400_045
  | .magneticFluxDensity => 1_400_046
  | .magneticMoment => 1_400_047
  | .magneticPolarization => 1_400_048
  | .magnetization => 1_400_049
  | .magnetomotiveForce => 1_400_050
  | .mass => 1_400_051
  | .massFlux => 1_400_052
  | .momentum => 1_400_053
  | .phaseAngleRad => 1_400_054
  | .phaseAngleDeg => 1_400_055
  | .power => 1_400_056
  | .powerFactor => 1_400_057
  | .pressure => 1_400_058
  | .reactance => 1_400_059
  | .resistance => 1_400_060
  | .resistivity => 1_400_061
  | .selfInductance => 1_400_062
  | .solidAngle => 1_400_063
  | .soundIntensity => 1_400_064
  | .speed => 1_400_065
  | .stress => 1_400_066
  | .surfaceTension => 1_400_067
  | .commonTemperature => 1_400_068
  | .absoluteTemperature => 1_400_069
  | .temperatureDifference => 1_400_070
  | .thermalCapacity => 1_400_071
  | .thermalConductivity => 1_400_072
  | .thermoelectricPower => 1_400_073
  | .timeSeconds => 1_400_074
  | .torque => 1_400_075
  | .volume => 1_400_076
  | .volumeFlux => 1_400_077
  | .weight => 1_400_078
  | .work => 1_400_079
  | .apparentPower => 1_400_080
  | .volumeFluxMeter => 1_401_200
  | .volumeFluxLs => 1_401_201
  | .stringAscii => 1_600_000
  | .stringLatin1 => 1_600_001
  | .sceneNumber => 1_700_001
  | .sceneControl => 1_800_001
  | .dateTime => 1_900_001
  | .hvacMode => 2_000_102
  | .hvacContrMode => 2_000_105
  | .activeEnergy8Byte => 2_900_010
  | .apparantEnergy8Byte => 2_900_011
  | .reactiveEnergy8Byte => 2_900_012
  | .colorRGB => 23_200_600
  | .tariffActiveEnergy => 23_500_001
  | .colorXYY => 24_200_600
  | .colorRGBW => 25_100_600

def main (d : DptType) : ℕ := d.discriminant / 100_000

def sub (d : DptType) : ℕ := d.discriminant % 100_000

def numberStr (d : DptType) : String :=
  let sub := toString d.sub
  toString d.main ++ "." ++ "".pushn '0' (3 - sub.length) ++ sub

def unit : DptType → Option DptUnit
  | .scaling | .percentU8 => some .percent
  | .angle | .angleDeg | .phaseAngleDeg | .rotationAngle => some .degree
  | .timePeriodMsec | .timePeriod10Msec | .timePeriod100Msec => some .millisecond
  | .timePeriodSec => some .second
  | .timePeriodMin => some .minute
  | .timePeriodHrs => some .hour
  | .lengthMm => some .millimeter
  | .uElCurrentmA => some .milliampere
  | .brightness => some .lux
  | .colorTemperature => some .kelvin
  | .deltaTimeMsec | .deltaTime10Msec | .deltaTime100Msec => some .millisecond
  | .deltaTimeSec => some .second
  | .deltaTimeMin => some .minute
  | .deltaTimeHrs => some .hour
  | .percentV16 | .percentV8 => some .percent
  | .lengthM => some .meter
  | .temperature | .commonTemperature => some .degreeCelsius
  | .temperatureDifference2Byte | .absoluteTemperature | .temperatureDifference => some .kelvin
  | .temperatureA => some .kelvinPerHour
  | .lux => some .lux
  | .wsp | .speed => some .meterPerSecond
  | .pressure2Byte | .pressure | .stress => some .pascal
  | .humidity => some .percent
  | .partsPerMillion => some .partsPerMillion
  | .airFlow | .volumeFluxMeter => some .cubicMeterPerHour
  | .time1 | .timeSeconds | .longDeltaTimeSec | .longTimePeriodSec => some .second
  | .time2 => some .millisecond
  | .voltage | .electricPotential | .electricPotentialDifference | .electromotiveForce =>
    some .volt
  | .current => some .milliampere
  | .powerDensity | .soundIntensity => some .wattPerSquareMeter
  | .kelvinPerPercent => some .kelvinPerPercent
  | .power2Byte => some .kilowatt
  | .volumeFlow => some .literPerHour
  | .rainAmount => some .literPerSquareMeter
  | .temperatureF => some .degreeFahrenheit
  | .wspKmh => some .kilometerPerHour
  | .absoluteHumidity => some .gramPerCubicMeter
  | .concentrationUGM3 => some .microgramPerCubicMeter
  | .longTimePeriodMin => some .minute
  | .longTimePeriodHrs => some .hour
  | .volumeLiquidLitre | .deltaVolumeLiquidLitre => some .liter
  | .volumeM3 | .deltaVolumeM3 | .volume => some .cubicMeter
  | .flowRateM3H => some .cubicMeterPerHour
  | .activeEnergy | .activeEnergy8Byte => some .wattHour
  | .apparantEnergy | .apparantEnergy8Byte => some .voltAmpereHour
  | .reactiveEnergy | .reactiveEnergy8Byte => some .voltAmpereReactiveHour
  | .activeEnergykWh => some .kilowattHour
  | .apparantEnergykVAh => some .kilovoltAmpereHour
  | .reactiveEnergykVARh => some .kilovoltAmpereReactiveHour
  | .activeEnergyMWh => some .megawattHour
  | .acceleration => some .meterPerSecondSquared
  | .accelerationAngular => some .radianPerSecondSquared
  | .activationEnergy => some .joulePerMol
  | .activity => some .inverseSecond
  | .mol => some .mol
  | .angleRad | .phaseAngleRad => some .radian
  | .angularMomentum => some .jouleSecond
  | .angularVelocity | .angularFrequency => some .radianPerSecond
  | .area => some .squareMeter
  | .capacitance => some .farad
  | .chargeDensitySurface | .electricFluxDensity | .electricPolarization | .electricDisplacement =>
    some .coulombPerSquareMeter
  | .chargeDensityVolume => some .coulombPerCubicMeter
  | .compressibility => some .squareMeterPerNewton
  | .conductance => some .siemens
  | .electricalConductivity => some .siemensPerMeter
  | .density => some .kilogramPerCubicMeter
  | .electricCharge | .electricFlux => some .coulomb
  | .electricCurrent | .magnetomotiveForce => some .ampere
  | .electricCurrentDensity => some .amperePerSquareMeter
  | .electricDipoleMoment => some .coulombMeter
  | .electricFieldStrength => some .voltPerMeter
  | .electromagneticMoment | .magneticMoment => some .ampereSquareMeter
  | .energy | .heatQuantity | .work => some .joule
  | .force | .weight => some .newton
  | .frequency => some .hertz
  | .heatCapacity | .thermalCapacity => some .joulePerKelvin
  | .heatFlowRate | .power | .apparentPower => some .watt
  | .impedance | .reactance | .resistance => some .ohm
  | .length => some .meter
  | .lightQuantity => some .lumenSecond
  | .luminance => some .candelaPerSquareMeter
  | .luminousFlux => some .lumen
  | .luminousIntensity => some .candela
  | .magneticFieldStrength | .magnetization => some .amperePerMeter
  | .magneticFlux => some .weber
  | .magneticFluxDensity | .magneticPolarization => some .tesla
  | .mass => some .kilogram
  | .massFlux => some .kilogramPerSecond
  | .momentum => some .newtonPerSecond
  | .powerFactor => none
  | .resistivity => some .ohmMeter
  | .selfInductance => some .henry
  | .solidAngle => some .steradian
  | .surfaceTension => some .newtonPerMeter
  | .thermalConductivity => some .wattPerMeterKelvin
  | .thermoelectricPower => some .voltPerKelvin
  | .torque => some .newtonMeter
  | .volumeFlux => some .cubicMeterPerSecond
  | .volumeFluxLs => some .literPerSecond
  | .tariffActiveEnergy => some .wattHour
  | _ => none

def byteLength (d : DptType) : ℕ :=
  match d.main with
  | 1 | 2 | 3 | 5 | 6 | 17 | 18 | 20 => 1
  | 7 | 8 | 9 => 2
  | 10 | 11 | 232 => 3
  | 12 | 13 | 14 => 4
  | 16 => 14
  | 19 | 29 => 8
  | 235 | 242 | 251 => 6
  | _ => 0

end DptType

end Knust.Protocol.Dpt
