import UnitConversion.Catalog.Directory

/-!
# The documents that come with the library

Fifteen category documents, each as the value that its text denotes, and the directory that holds
them.
-/

namespace UnitConversion.Bundled

/-- A whole number in a document. -/
def whole (n : Nat) : Json :=
  .integer n

/-- A number in a document that is written with a point or an exponent: `c` divided by a power of
ten. -/
def fraction (c places : Nat) : Json :=
  .decimal (.finite false c (-(places : Int)))

/-- The members that every unit has. -/
def nameMembers (name symbol : String) (aliases : List String) : List (String × Json) :=
  [("name", .text name), ("symbol", .text symbol), ("aliases", .list (aliases.map .text))]

/-- A unit with a factor, under its key. -/
def scaled (key name symbol : String) (aliases : List String) (factor : Json) : String × Json :=
  (key, .object (nameMembers name symbol aliases ++ [("factor", factor)]))

/-- A unit with formulas, under its key. -/
def transformed (key name symbol : String) (aliases : List String) (toBase fromBase : String) :
    String × Json :=
  (key, .object (nameMembers name symbol aliases ++
    [("transform", .object [("toBase", .text toBase), ("fromBase", .text fromBase)])]))

/-- A category document. -/
def category (name baseUnit description : String) (units : List (String × Json)) : Json :=
  .object [("category", .text name), ("baseUnit", .text baseUnit),
    ("description", .text description), ("units", .object units)]

/-- The units of airflow. -/
def airflow : Json :=
  category "airflow" "m3_s" "Volumetric flow rate" [
    scaled "m3_s" "Cubic meter per second" "m³/s"
      ["m3_s", "m3/s", "cubic meters per second"]
      (whole 1),
    transformed "m3_h" "Cubic meter per hour" "m³/h"
      ["m3_h", "m3/h", "m3/hr", "cmh", "cubic meters per hour"]
      "x / 3600" "x * 3600",
    transformed "m3_min" "Cubic meter per minute" "m³/min"
      ["m3_min", "m3/min", "cubic meters per minute"]
      "x / 60" "x * 60",
    scaled "l_s" "Liter per second" "L/s"
      ["l_s", "l/s", "lps", "liters per second", "litres per second"]
      (fraction 1 3),
    transformed "cfm" "Cubic foot per minute" "ft³/min"
      ["cfm", "ft3/min", "cubic feet per minute"]
      "x * 0.028316846592 / 60" "x * 60 / 0.028316846592",
    transformed "gpm" "US gallon per minute" "gal/min"
      ["gpm", "gal/min", "gallons per minute"]
      "x * 0.003785411784 / 60" "x * 60 / 0.003785411784"]

/-- The units of area. -/
def area : Json :=
  category "area" "m2" "Surface area" [
    scaled "m2" "Square meter" "m²"
      ["m2", "m^2", "sq m", "square meter", "square meters", "square metre", "square metres"]
      (whole 1),
    scaled "cm2" "Square centimeter" "cm²"
      ["cm2", "cm^2", "sq cm", "square centimeter", "square centimeters"]
      (fraction 1 4),
    scaled "mm2" "Square millimeter" "mm²"
      ["mm2", "mm^2", "sq mm", "square millimeter", "square millimeters"]
      (fraction 1 6),
    scaled "km2" "Square kilometer" "km²"
      ["km2", "km^2", "sq km", "square kilometer", "square kilometers"]
      (whole 1000000),
    scaled "hectare" "Hectare" "ha"
      ["hectare", "hectares", "ha"]
      (whole 10000),
    scaled "ft2" "Square foot" "ft²"
      ["ft2", "ft^2", "sq ft", "sqft", "square foot", "square feet"]
      (fraction 9290304 8),
    scaled "in2" "Square inch" "in²"
      ["in2", "in^2", "sq in", "square inch", "square inches"]
      (fraction 64516 8),
    scaled "yd2" "Square yard" "yd²"
      ["yd2", "yd^2", "sq yd", "square yard", "square yards"]
      (fraction 83612736 8),
    scaled "acre" "Acre" "ac"
      ["acre", "acres", "ac"]
      (fraction 40468564224 7)]

/-- The units of density. -/
def density : Json :=
  category "density" "kg_m3" "Mass density" [
    scaled "kg_m3" "Kilogram per cubic meter" "kg/m³"
      ["kg_m3", "kg/m3", "kg/m^3", "kilograms per cubic meter"]
      (whole 1),
    scaled "g_cm3" "Gram per cubic centimeter" "g/cm³"
      ["g_cm3", "g/cm3", "g/cc", "g/ml", "grams per cubic centimeter"]
      (whole 1000),
    scaled "g_l" "Gram per liter" "g/L"
      ["g_l", "g/l", "grams per liter"]
      (whole 1),
    scaled "lb_ft3" "Pound per cubic foot" "lb/ft³"
      ["lb_ft3", "lb/ft3", "pcf", "pounds per cubic foot"]
      (fraction 16018463373960138 15),
    scaled "lb_in3" "Pound per cubic inch" "lb/in³"
      ["lb_in3", "lb/in3", "pounds per cubic inch"]
      (fraction 27679904710203125 12),
    scaled "lb_gal" "Pound per US gallon" "lb/gal"
      ["lb_gal", "lb/gal", "pounds per gallon"]
      (fraction 11982642731689663 14)]

/-- The units of energy. -/
def energy : Json :=
  category "energy" "joule" "Energy, work and heat" [
    scaled "joule" "Joule" "J"
      ["joule", "joules", "j"]
      (whole 1),
    scaled "kj" "Kilojoule" "kJ"
      ["kj", "kilojoule", "kilojoules"]
      (whole 1000),
    scaled "mj" "Megajoule" "MJ"
      ["mj", "megajoule", "megajoules"]
      (whole 1000000),
    scaled "wh" "Watt hour" "Wh"
      ["wh", "watt hour", "watt hours", "watt-hour", "watt-hours"]
      (whole 3600),
    scaled "kwh" "Kilowatt hour" "kWh"
      ["kwh", "kilowatt hour", "kilowatt hours", "kilowatt-hour", "kilowatt-hours"]
      (whole 3600000),
    scaled "mwh" "Megawatt hour" "MWh"
      ["mwh", "megawatt hour", "megawatt hours"]
      (whole 3600000000),
    scaled "btu" "British thermal unit" "Btu"
      ["btu", "btus", "british thermal unit", "british thermal units"]
      (fraction 105505585262 8),
    scaled "kbtu" "Thousand Btu" "kBtu"
      ["kbtu", "mbtu"]
      (fraction 105505585262 5),
    scaled "mmbtu" "Million Btu" "MMBtu"
      ["mmbtu", "million btu"]
      (fraction 105505585262 2),
    scaled "therm" "Therm" "thm"
      ["therm", "therms", "thm"]
      (fraction 105505585262 3),
    scaled "calorie" "Calorie" "cal"
      ["calorie", "calories", "cal"]
      (fraction 4184 3),
    scaled "kcal" "Kilocalorie" "kcal"
      ["kcal", "kilocalorie", "kilocalories", "food calorie"]
      (whole 4184)]

/-- The units of heat flow. -/
def heatFlow : Json :=
  category "heat-flow" "w_k" "Thermal conductance (heat flow per degree)" [
    scaled "w_k" "Watt per kelvin" "W/K"
      ["w_k", "w/k", "watts per kelvin"]
      (whole 1),
    scaled "btu_hr_f" "Btu per hour per degree Fahrenheit" "Btu/(h·°F)"
      ["btu_hr_f", "btu/hr-f", "btu/hr/f", "btu/h·°f"]
      (fraction 52752792631 11)]

/-- The units of length. -/
def length : Json :=
  category "length" "meter" "Distance and length" [
    scaled "meter" "Meter" "m"
      ["meter", "meters", "metre", "metres", "m"]
      (whole 1),
    scaled "millimeter" "Millimeter" "mm"
      ["millimeter", "millimeters", "millimetre", "millimetres", "mm"]
      (fraction 1 3),
    scaled "centimeter" "Centimeter" "cm"
      ["centimeter", "centimeters", "centimetre", "centimetres", "cm"]
      (fraction 1 2),
    scaled "kilometer" "Kilometer" "km"
      ["kilometer", "kilometers", "kilometre", "kilometres", "km"]
      (whole 1000),
    scaled "micrometer" "Micrometer" "µm"
      ["micrometer", "micrometers", "micron", "microns", "um", "µm"]
      (fraction 1 6),
    scaled "nanometer" "Nanometer" "nm"
      ["nanometer", "nanometers", "nm"]
      (fraction 1 9),
    scaled "angstrom" "Angstrom" "Å"
      ["angstrom", "angstroms", "Å"]
      (fraction 1 10),
    scaled "inch" "Inch" "in"
      ["inch", "inches", "in"]
      (fraction 254 4),
    scaled "foot" "Foot" "ft"
      ["foot", "feet", "ft"]
      (fraction 3048 4),
    scaled "yard" "Yard" "yd"
      ["yard", "yards", "yd", "yds"]
      (fraction 9144 4),
    scaled "mile" "Mile" "mi"
      ["mile", "miles", "mi"]
      (fraction 1609344 3),
    scaled "nautical_mile" "Nautical mile" "nmi"
      ["nautical mile", "nautical miles", "nmi"]
      (whole 1852)]

/-- The units of mass. -/
def mass : Json :=
  category "mass" "kg" "Mass" [
    scaled "kg" "Kilogram" "kg"
      ["kg", "kilogram", "kilograms", "kilo", "kilos"]
      (whole 1),
    scaled "g" "Gram" "g"
      ["g", "gram", "grams", "gm"]
      (fraction 1 3),
    scaled "mg" "Milligram" "mg"
      ["mg", "milligram", "milligrams"]
      (fraction 1 6),
    scaled "ton-metric" "Metric tonne" "t"
      ["ton-metric", "tonne", "tonnes", "metric ton", "metric tons", "t"]
      (whole 1000),
    scaled "ton-short" "Short ton" "ton"
      ["ton-short", "ton", "tons", "short ton", "short tons"]
      (fraction 90718474 5),
    scaled "lb" "Pound" "lb"
      ["lb", "lbs", "pound", "pounds", "lbm"]
      (fraction 45359237 8),
    scaled "oz" "Ounce" "oz"
      ["oz", "ounce", "ounces"]
      (fraction 28349523125 12),
    scaled "stone" "Stone" "st"
      ["stone", "stones", "st"]
      (fraction 635029318 8)]

/-- The units of power. -/
def power : Json :=
  category "power" "w" "Power and heat rate" [
    scaled "w" "Watt" "W"
      ["w", "watt", "watts"]
      (whole 1),
    scaled "kw" "Kilowatt" "kW"
      ["kw", "kilowatt", "kilowatts"]
      (whole 1000),
    scaled "mw" "Megawatt" "MW"
      ["mw", "megawatt", "megawatts"]
      (whole 1000000),
    scaled "btu_hr" "Btu per hour" "Btu/h"
      ["btu_hr", "btu/hr", "btu/h", "btuh", "btu per hour"]
      (fraction 29307107017 11),
    scaled "kbtu_hr" "Thousand Btu per hour" "kBtu/h"
      ["kbtu_hr", "kbtu/hr", "kbtu/h", "mbh"]
      (fraction 29307107017 8),
    scaled "hp" "Horsepower" "hp"
      ["hp", "horsepower"]
      (fraction 74569987158227 11),
    scaled "ton-cooling" "Ton of refrigeration" "TR"
      ["ton-cooling", "tr", "refrigeration ton", "refrigeration tons", "cooling ton",
        "cooling tons"]
      (fraction 351685284204 8)]

/-- The units of pressure. -/
def pressure : Json :=
  category "pressure" "pa" "Pressure and stress" [
    scaled "pa" "Pascal" "Pa"
      ["pa", "pascal", "pascals"]
      (whole 1),
    scaled "kpa" "Kilopascal" "kPa"
      ["kpa", "kilopascal", "kilopascals"]
      (whole 1000),
    scaled "mpa" "Megapascal" "MPa"
      ["mpa", "megapascal", "megapascals"]
      (whole 1000000),
    scaled "bar" "Bar" "bar"
      ["bar", "bars"]
      (whole 100000),
    scaled "mbar" "Millibar" "mbar"
      ["mbar", "millibar", "millibars"]
      (whole 100),
    scaled "psi" "Pound per square inch" "psi"
      ["psi", "lbf/in2", "pounds per square inch"]
      (fraction 6894757293168 9),
    scaled "atm" "Standard atmosphere" "atm"
      ["atm", "atmosphere", "atmospheres"]
      (whole 101325),
    scaled "inhg" "Inch of mercury" "inHg"
      ["inhg", "in hg", "inches of mercury"]
      (fraction 3386389 3),
    scaled "inwc" "Inch of water column" "in. w.c."
      ["inwc", "in wc", "in h2o", "inh2o", "inches of water"]
      (fraction 24908891 5),
    transformed "torr" "Torr" "Torr"
      ["torr"]
      "x * 101325 / 760" "x * 760 / 101325",
    scaled "mmhg" "Millimeter of mercury" "mmHg"
      ["mmhg", "mm hg", "millimeters of mercury"]
      (fraction 133322387415 9)]

/-- The units of speed. -/
def speed : Json :=
  category "speed" "m_s" "Velocity" [
    scaled "m_s" "Meter per second" "m/s"
      ["m_s", "m/s", "mps", "meters per second", "metres per second"]
      (whole 1),
    transformed "kph" "Kilometer per hour" "km/h"
      ["kph", "km/h", "kmh", "kilometers per hour", "kilometres per hour"]
      "x / 3.6" "x * 3.6",
    scaled "mph" "Mile per hour" "mph"
      ["mph", "mi/h", "miles per hour"]
      (fraction 44704 5),
    scaled "ft_s" "Foot per second" "ft/s"
      ["ft_s", "ft/s", "fps", "feet per second"]
      (fraction 3048 4),
    scaled "ft_min" "Foot per minute" "ft/min"
      ["ft_min", "ft/min", "fpm", "feet per minute"]
      (fraction 508 5),
    transformed "knot" "Knot" "kn"
      ["knot", "knots", "kn", "kt"]
      "x * 1852 / 3600" "x * 3600 / 1852"]

/-- The units of temperature difference. -/
def temperatureDifference : Json :=
  category "temperature-difference" "delta_k" "Temperature intervals (no offset)" [
    scaled "delta_k" "Kelvin difference" "ΔK"
      ["delta_k", "delta k", "delta-k", "dk"]
      (whole 1),
    scaled "delta_c" "Celsius difference" "Δ°C"
      ["delta_c", "delta c", "delta-c", "dc", "delta degc"]
      (whole 1),
    transformed "delta_f" "Fahrenheit difference" "Δ°F"
      ["delta_f", "delta f", "delta-f", "df", "delta degf"]
      "x * 5 / 9" "x * 9 / 5",
    transformed "delta_r" "Rankine difference" "Δ°R"
      ["delta_r", "delta r", "delta-r", "dr"]
      "x * 5 / 9" "x * 9 / 5"]

/-- The units of temperature. -/
def temperature : Json :=
  category "temperature" "kelvin" "Absolute temperature" [
    scaled "kelvin" "Kelvin" "K"
      ["kelvin", "kelvins", "k", "degk"]
      (whole 1),
    transformed "celsius" "Degree Celsius" "°C"
      ["celsius", "degc", "°C", "deg c", "degrees celsius", "c", "centigrade"]
      "x + 273.15" "x - 273.15",
    transformed "fahrenheit" "Degree Fahrenheit" "°F"
      ["fahrenheit", "degf", "°F", "deg f", "degrees fahrenheit", "f"]
      "(x - 32) * 5 / 9 + 273.15" "(x - 273.15) * 9 / 5 + 32",
    transformed "rankine" "Degree Rankine" "°R"
      ["rankine", "degr", "°R", "deg r", "degrees rankine"]
      "x * 5 / 9" "x * 9 / 5"]

/-- The units of thermal conductivity. -/
def thermalConductivity : Json :=
  category "thermal-conductivity" "w_m_k"
    "Thermal conductivity (k-value) and resistivity per inch"
    [ scaled "w_m_k" "Watt per meter kelvin" "W/(m·K)"
      ["w_m_k", "w/mk", "w/m-k", "w/m·k"]
      (whole 1),
    scaled "btu_hr_ft_f" "Btu per hour foot degree Fahrenheit" "Btu/(h·ft·°F)"
      ["btu_hr_ft_f", "btu/hr-ft-f", "btu/h·ft·°f"]
      (fraction 1730734908 9),
    scaled "btu_in_hr_ft2_f" "Btu inch per hour square foot degree Fahrenheit" "Btu·in/(h·ft²·°F)"
      ["btu_in_hr_ft2_f", "btu-in/hr-ft2-f", "k-ip"]
      (fraction 144227909 9),
    transformed "hr_ft2_f_btu_in" "R-value per inch" "h·ft²·°F/(Btu·in)"
      ["hr_ft2_f_btu_in", "hr-ft2-f/btu-in", "r-per-inch", "r/in"]
      "1.730734908 / (x * 12)" "1.730734908 / (x * 12)"]

/-- The units of thermal transmittance. -/
def thermalTransmittance : Json :=
  category "thermal-transmittance" "w_m2_k"
    "U-factor and its reciprocal, thermal resistance (R-value)"
    [ scaled "w_m2_k" "Watt per square meter kelvin" "W/(m²·K)"
      ["w_m2_k", "w/m2k", "w/m2-k", "w/m2·k", "u-si"]
      (whole 1),
    scaled "btu_hr_ft2_f" "Btu per hour square foot degree Fahrenheit" "Btu/(h·ft²·°F)"
      ["btu_hr_ft2_f", "btu/hr-ft2-f", "btu/h·ft2·°f", "u-ip"]
      (fraction 5678263337 9),
    transformed "m2_k_w" "Square meter kelvin per watt (RSI)" "m²·K/W"
      ["m2_k_w", "m2k/w", "m2-k/w", "rsi", "r-si"]
      "1 / x" "1 / x",
    transformed "hr_ft2_f_btu" "Hour square foot degree Fahrenheit per Btu (R-value)" "h·ft²·°F/Btu"
      ["hr_ft2_f_btu", "hr-ft2-f/btu", "h·ft2·°f/btu", "r-value", "r-ip"]
      "5.678263337 / x" "5.678263337 / x"]

/-- The units of volume. -/
def volume : Json :=
  category "volume" "m3" "Volume and capacity (US customary gallons)" [
    scaled "m3" "Cubic meter" "m³"
      ["m3", "m^3", "cubic meter", "cubic meters", "cubic metre", "cubic metres"]
      (whole 1),
    scaled "cm3" "Cubic centimeter" "cm³"
      ["cm3", "cm^3", "cc", "cubic centimeter", "cubic centimeters"]
      (fraction 1 6),
    scaled "liter" "Liter" "L"
      ["liter", "liters", "litre", "litres", "l"]
      (fraction 1 3),
    scaled "milliliter" "Milliliter" "mL"
      ["milliliter", "milliliters", "millilitre", "millilitres", "ml"]
      (fraction 1 6),
    scaled "gallon" "US gallon" "gal"
      ["gallon", "gallons", "gal", "us gallon", "us gallons"]
      (fraction 3785411784 12),
    scaled "imperial_gallon" "Imperial gallon" "imp gal"
      ["imperial gallon", "imperial gallons", "imp gal", "uk gallon"]
      (fraction 454609 8),
    scaled "quart" "US quart" "qt"
      ["quart", "quarts", "qt"]
      (fraction 946352946 12),
    scaled "pint" "US pint" "pt"
      ["pint", "pints", "pt"]
      (fraction 473176473 12),
    scaled "cup" "US cup" "cup"
      ["cup", "cups"]
      (fraction 2365882365 13),
    scaled "fluid_ounce" "US fluid ounce" "fl oz"
      ["fluid ounce", "fluid ounces", "fl oz", "floz"]
      (fraction 295735295625 16),
    scaled "ft3" "Cubic foot" "ft³"
      ["ft3", "ft^3", "cu ft", "cubic foot", "cubic feet"]
      (fraction 28316846592 12),
    scaled "in3" "Cubic inch" "in³"
      ["in3", "in^3", "cu in", "cubic inch", "cubic inches"]
      (fraction 16387064 12)]

/-- The documents by category, in the order of the categories' names. -/
def documents : List (String × Json) :=
  [("airflow", airflow), ("area", area), ("density", density), ("energy", energy),
    ("heat-flow", heatFlow), ("length", length), ("mass", mass), ("power", power),
    ("pressure", pressure), ("speed", speed),
   ("temperature", temperature), ("temperature-difference", temperatureDifference),
   ("thermal-conductivity", thermalConductivity), ("thermal-transmittance", thermalTransmittance),
   ("volume", volume)]

/-- The path of the directory of the documents. -/
def path : String := "/unit-converter/plugins/unit_converter/config"

/-- The library that holds the documents and nothing else. -/
def library : Library :=
  ⟨[Folder.ofPath path (documents.map fun d => (d.1 ++ ".json", .document d.2))], 0⟩

/-- The directory of the documents. -/
def directory : Directory := ⟨library, path⟩

end UnitConversion.Bundled
